import Mathlib.Algebra.Ring.Nat
import SchemaIntake.Proofs.CommandLine.Check
import SchemaIntake.Proofs.Schema.Reports

/-!
# Reports and exit status of a check

Where all files can be read, everything that the command `check` prints can be said in advance.
There is one report for each file, that of its text; the configuration can do no more to it than to
leave out warnings, and all warnings have the same code.  The totals are those of the reports, and
so is the exit status.

## Main definitions

* `reportOn disable content` — the report on a text, if some texts are given as codes of warnings to
  be left out.
* `Report.IsGraded` — the errors of a report are graded as errors, its warnings as warnings.
* `errorCount reports`, `warningCount reports`, `totalsLines` — what the totals are.

## Main results

* `Config.mem_disabledWarnings_iff` — which warnings a configuration leaves out.
* `CheckPlan.total_error`, `CheckPlan.total_warning` — the totals are those of the reports.
* `check_reports_every_file` — **what a check of readable files prints, and how it ends**.
* `check_of_no_files_fails` — a check of no files is a failure.
-/

namespace SchemaIntake

open Text

/-! ### Warnings that are left out -/

/-- The warning about a missing primary key is the only one there is.  It is left out if one of the
texts is its code, in any case, and nothing else is. -/
theorem Config.mem_disabledWarnings_iff {config : Config} {code : Code} :
    code ∈ config.disabledWarnings ↔
      code = .noPrimaryKey ∧ ∃ t ∈ config.disable, upper t = "NO_PRIMARY_KEY".toList := by
  unfold disabledWarnings
  rw [List.mem_filterMap]
  constructor
  · rintro ⟨t, ht, hcode⟩
    obtain ⟨hname, hwarning⟩ := Option.filter_eq_some_iff.mp hcode
    obtain rfl : code = .noPrimaryKey := of_decide_eq_true hwarning
    exact ⟨rfl, t, ht, (Code.ofName?_eq_some_iff.mp hname).symm⟩
  · rintro ⟨rfl, t, ht, hname⟩
    refine ⟨t, ht, Option.filter_eq_some_iff.mpr ⟨?_, rfl⟩⟩
    exact Code.ofName?_eq_some_iff.mpr hname.symm

/-- The report on a text, without warnings about missing primary keys if one of some texts is the
code of this warning. -/
def reportOn (disable : List Text) (content : Text) : Report :=
  { checkSchema content with
    warnings :=
      if ∃ t ∈ disable, upper t = "NO_PRIMARY_KEY".toList then
        (checkSchema content).warnings.filter (·.code ≠ .noPrimaryKey)
      else (checkSchema content).warnings }

/-- The report that a configuration asks for. -/
theorem withoutWarnings_disabledWarnings (config : Config) (content : Text) :
    (checkSchema content).withoutWarnings config.disabledWarnings =
      reportOn config.disable content := by
  -- there is one code of a warning, so only its name matters among those that are listed
  have hcontains (code : Code) : config.disabledWarnings.contains code = true ↔
      code = .noPrimaryKey ∧ ∃ t ∈ config.disable, upper t = "NO_PRIMARY_KEY".toList := by
    rw [List.contains_iff_mem, Config.mem_disabledWarnings_iff]
  unfold Report.withoutWarnings reportOn
  congr 1
  split
  · next hsome =>
    refine List.filter_congr fun warning _ => ?_
    rw [Bool.eq_iff_iff, Bool.not_eq_true', Bool.eq_false_iff, Ne, hcontains, and_iff_left hsome,
      decide_eq_true_iff]
  · next hnone =>
    refine List.filter_eq_self.mpr fun warning _ => ?_
    rw [Bool.not_eq_true', Bool.eq_false_iff, Ne, hcontains]
    exact fun hboth => hnone hboth.2

/-! ### Totals -/

/-- The findings of a report are graded as what they are reported as. -/
structure Report.IsGraded (report : Report) : Prop where
  errors : ∀ finding ∈ report.errors, finding.severity = .error
  warnings : ∀ finding ∈ report.warnings, finding.severity = .warning

theorem isGraded_checkSchema (sql : Text) : (checkSchema sql).IsGraded := by
  constructor
  · intro finding hfinding
    exact (isSchemaError_of_mem_errors hfinding).severity_eq
  · intro finding hfinding
    rw [warnings_checkSchema] at hfinding
    obtain ⟨table, -, rfl⟩ := List.mem_map.mp hfinding
    rfl

theorem isGraded_reportOn (disable : List Text) (content : Text) :
    (reportOn disable content).IsGraded := by
  obtain ⟨herrors, hwarnings⟩ := isGraded_checkSchema content
  refine ⟨herrors, fun finding hfinding => hwarnings finding ?_⟩
  unfold reportOn at hfinding
  dsimp only at hfinding
  split at hfinding
  · exact List.mem_of_mem_filter hfinding
  · exact hfinding

/-- Each finding of a report is counted where it is listed. -/
theorem Report.IsGraded.countP_findings {report : Report} (h : report.IsGraded) :
    report.findings.countP (·.severity = .error) = report.errors.length ∧
      report.findings.countP (·.severity = .warning) = report.warnings.length := by
  have hcount {l : List Finding} {severity : Severity} (hl : ∀ f ∈ l, f.severity = severity) :
      l.countP (·.severity = severity) = l.length :=
    List.countP_eq_length.mpr fun f hf => decide_eq_true (hl f hf)
  have hnone {l : List Finding} {severity other : Severity} (hl : ∀ f ∈ l, f.severity = severity)
      (hne : severity ≠ other) : l.countP (·.severity = other) = 0 :=
    List.countP_eq_zero.mpr fun f hf => by simpa [hl f hf] using hne
  unfold findings
  rw [List.countP_append, List.countP_append, hcount h.errors, hcount h.warnings,
    hnone h.errors (by decide), hnone h.warnings (by decide), Nat.add_zero, Nat.zero_add]
  exact ⟨rfl, rfl⟩

def errorCount (reports : List Report) : Nat := (reports.map fun r => r.errors.length).sum

def warningCount (reports : List Report) : Nat := (reports.map fun r => r.warnings.length).sum

def totalsLines (errors warnings files : Nat) : List Text :=
  [[],
    if 0 < errors ∨ 0 < warnings then
      "Found ".toList ++ decimal errors ++ " error(s), ".toList ++ decimal warnings ++
        " warning(s) in ".toList ++ decimal files ++ " file(s)".toList
    else "All ".toList ++ decimal files ++ " file(s) passed validation".toList]

/-- What reports on some files add to the standard output. -/
def OutputFormat.out (format : OutputFormat) (optimization : Optimization)
    (reports : List (Text × Report)) : Text :=
  match format with
  | .human => []
  | .json => unlines (reports.map fun r => r.2.jsonText r.1 optimization)

/-- What reports on some files add to the standard error stream. -/
def OutputFormat.err (format : OutputFormat) (quiet : Bool) (reports : List (Text × Report)) :
    Text :=
  match format with
  | .human => unlines (reports.flatMap fun r => r.2.humanLines quiet r.1)
  | .json => []

namespace CheckPlan

theorem total_eq_sum (severity : Severity) (reports : List Report) : total severity reports =
    (reports.map fun r => r.findings.countP (·.severity = severity)).sum := List.countP_flatMap

theorem total_error {reports : List Report} (h : ∀ r ∈ reports, r.IsGraded) :
    total .error reports = errorCount reports := by
  unfold errorCount
  rw [total_eq_sum, List.map_congr_left fun r hr => (h r hr).countP_findings.1]

theorem total_warning {reports : List Report} (h : ∀ r ∈ reports, r.IsGraded) :
    total .warning reports = warningCount reports := by
  unfold warningCount
  rw [total_eq_sum, List.map_congr_left fun r hr => (h r hr).countP_findings.2]

/-- The totals are printed as they are counted. -/
theorem summary_eq {reports : List Report} (h : ∀ r ∈ reports, r.IsGraded) :
    summary reports = totalsLines (errorCount reports) (warningCount reports) reports.length := by
  unfold summary totalsLines
  rw [total_error h, total_warning h]
  simp only [Bool.or_eq_true, decide_eq_true_eq]

/-- The status is 1 if a report is invalid, or if warnings are left and count as failure. -/
theorem status_eq (plan : CheckPlan) {reports : List Report} (h : ∀ r ∈ reports, r.IsGraded) :
    plan.status reports = if (∃ r ∈ reports, r.isValid = false) ∨
      (plan.failOnWarnings = true ∧ 0 < warningCount reports) then 1 else 0 := by
  unfold status
  rw [total_warning h]
  simp only [Bool.or_eq_true, Bool.and_eq_true, decide_eq_true_eq, List.any_eq_true,
    Bool.not_eq_true']

/-! ### Readable files -/

theorem untilUnreadable_map_some (files : List (Text × Text)) :
    untilUnreadable (files.map fun file => (file.1, some file.2)) = (files, none) := by
  induction files with
  | nil => rfl
  | cons file files ih => rw [List.map_cons, untilUnreadable, ih]

theorem flatMap_out (plan : CheckPlan) (reports : List (Text × Report)) :
    (reports.flatMap fun r => plan.out r.1 r.2) = plan.format.out plan.optimization reports := by
  unfold out OutputFormat.out unlines
  cases plan.format with
  | human => exact List.flatMap_eq_nil_iff.mpr fun _ _ => rfl
  | json => simp only [List.flatMap_singleton, List.flatMap_map]

theorem flatMap_err (plan : CheckPlan) (reports : List (Text × Report)) :
    (reports.flatMap fun r => plan.err r.1 r.2) = plan.format.err plan.quiet reports := by
  unfold err OutputFormat.err unlines
  cases plan.format with
  | human => exact List.flatMap_assoc.symm
  | json => exact List.flatMap_eq_nil_iff.mpr fun _ _ => rfl

/-- What is printed about files that can be read, and how it ends. -/
theorem output_map_some (plan : CheckPlan) {disable : List Text}
    (hreport : ∀ content, plan.report content = reportOn disable content)
    (files : List (Text × Text)) :
    let reports := files.map fun file => (file.1, reportOn disable file.2)
    plan.output (files.map fun file => (file.1, some file.2)) =
      ⟨if (∃ file ∈ files, (checkSchema file.2).isValid = false) ∨
          (plan.failOnWarnings = true ∧ 0 < warningCount (reports.map (·.2))) then 1 else 0,
        plan.format.out plan.optimization reports,
        plan.format.err plan.quiet reports ++
          if plan.quiet then []
          else unlines (totalsLines (errorCount (reports.map (·.2)))
            (warningCount (reports.map (·.2))) files.length)⟩ := by
  intro reports
  -- the totals count by severity; errors and warnings are listed apart, so both counts agree
  have hgraded : ∀ r ∈ reports.map (·.2), r.IsGraded := by
    intro r hr
    obtain ⟨report, hreport, rfl⟩ := List.mem_map.mp hr
    obtain ⟨file, -, rfl⟩ := List.mem_map.mp hreport
    exact isGraded_reportOn disable file.2
  have hinvalid : (∃ r ∈ reports.map (·.2), r.isValid = false) ↔
      ∃ file ∈ files, (checkSchema file.2).isValid = false := by
    constructor
    · rintro ⟨r, hr, hinvalid⟩
      obtain ⟨report, hreport, rfl⟩ := List.mem_map.mp hr
      obtain ⟨file, hfile, rfl⟩ := List.mem_map.mp hreport
      exact ⟨file, hfile, hinvalid⟩
    · rintro ⟨file, hfile, hinvalid⟩
      exact ⟨_, List.mem_map_of_mem (List.mem_map_of_mem hfile), hinvalid⟩
  have hlength : (reports.map (·.2)).length = files.length := by
    rw [List.length_map, List.length_map]
  have hreports : (files.map fun file => (file.1, plan.report file.2)) = reports :=
    List.map_congr_left fun file _ => by rw [hreport]
  unfold output
  rw [untilUnreadable_map_some]
  dsimp only
  rw [hreports, flatMap_out, flatMap_err, status_eq plan hgraded, summary_eq hgraded, hlength]
  simp only [hinvalid]

end CheckPlan

/-! ### What is configured -/

theorem Config.outputFormat_eq (config : Config) :
    config.outputFormat = config.format.elim (.ok .human) OutputFormat.read := by
  unfold outputFormat
  cases config.format <;> rfl

theorem Config.optimizationType_eq (config : Config) :
    config.optimizationType = config.optimization.elim (.ok .balanced) Optimization.read := by
  unfold optimizationType
  cases config.optimization <;> rfl

section Readable

variable {disk : Disk Id} {quiet : Bool} {options : CheckOptions} {config : Config}
  {format : OutputFormat} {optimization : Optimization} {files : List (Text × Text)}

/-- Where the format and the optimization type are valid there is a plan. -/
theorem plan_overriddenBy (hformat : ((options.format.map OutputFormat.name).or config.format).elim
      (.ok .human) OutputFormat.read = .ok format)
    (hoptimization : (options.optimization.or config.optimization).elim (.ok .balanced)
      Optimization.read = .ok optimization) (quiet : Bool) :
    let merged := config.overriddenBy options.files options.format options.optimization
      options.disable options.failOnWarnings
    merged.plan quiet = .ok ⟨format, optimization, merged.disabledWarnings,
      options.failOnWarnings || config.failOnWarnings, quiet⟩ := by
  intro merged
  have hformat' : merged.outputFormat = .ok format := by
    rw [Config.outputFormat_eq]
    exact hformat
  have hoptimization' : merged.optimizationType = .ok optimization := by
    rw [Config.optimizationType_eq]
    exact hoptimization
  unfold Config.plan
  rw [hformat', hoptimization']
  rfl

/-- **What a check of readable files prints, and how it ends.**  The files are those that the
arguments name, or else the configuration; in the same way the codes of warnings to be left out are
given, and the format and the optimization type.  Both may ask for warnings to count as failure.
There is one report for each file, in order; what is left out of it are the warnings about missing
primary keys, if they are disabled.  The totals are those of the reports.  The status is 1 if a file
is invalid, or if a warning is left and warnings count as failure, and otherwise it is 0; but to
check no files at all is a failure. -/
theorem check_reports_every_file {arguments : List Text}
    (harguments : Request.ofArguments arguments = .ok ⟨quiet, .check options⟩)
    (hconfig : disk.loadConfig options.config = .ok config)
    (hformat : ((options.format.map OutputFormat.name).or config.format).elim (.ok .human)
      OutputFormat.read = .ok format)
    (hoptimization : (options.optimization.or config.optimization).elim (.ok .balanced)
      Optimization.read = .ok optimization)
    (hfiles : (if options.files = [] then config.files else options.files) = files.map (·.1))
    (hplain : ∀ file ∈ files, Pattern.isOne file.1 = false)
    (hread : ∀ file ∈ files, (disk.read? file.1).run = some file.2) (parser : SqlParser)
    (settings : Settings) :
    let disable := if options.disable = [] then config.disable else options.disable
    let failOnWarnings := options.failOnWarnings || config.failOnWarnings
    let reports := files.map fun file => (file.1, reportOn disable file.2)
    runArguments disk parser settings arguments =
      if files = [] then Failure.noFilesNamed.output
      else
        ⟨if (∃ file ∈ files, (checkSchema file.2).isValid = false) ∨
            (failOnWarnings = true ∧ 0 < warningCount (reports.map (·.2))) then 1 else 0,
          format.out optimization reports,
          format.err quiet reports ++
            if quiet then []
            else unlines (totalsLines (errorCount (reports.map (·.2)))
              (warningCount (reports.map (·.2))) files.length)⟩ := by
  intro disable failOnWarnings reports
  let merged := config.overriddenBy options.files options.format options.optimization
    options.disable options.failOnWarnings
  have hplan : merged.plan quiet =
      .ok ⟨format, optimization, merged.disabledWarnings, failOnWarnings, quiet⟩ :=
    plan_overriddenBy hformat hoptimization quiet
  have hdisable : merged.disable = disable := by
    simp [merged, disable, Config.overriddenBy]
  -- no file is named by a pattern, so all are taken as they are named
  have hpaths : disk.expand merged.files = some (files.map (·.1)) := by
    have hmerged : merged.files = files.map (·.1) := by
      rw [← hfiles]
      simp [merged, Config.overriddenBy]
    rw [hmerged]
    refine Disk.expand_of_plain disk fun t ht => ?_
    obtain ⟨file, hfile, rfl⟩ := List.mem_map.mp ht
    exact hplain file hfile
  have hreports (content : Text) : CheckPlan.report
      ⟨format, optimization, merged.disabledWarnings, failOnWarnings, quiet⟩ content =
        reportOn disable content := by
    rw [← hdisable]
    exact withoutWarnings_disabledWarnings merged content
  split
  · next hnone =>
    subst hnone
    exact runArguments_check_nil harguments hconfig hplan hpaths parser settings
  · next hsome =>
    rw [runArguments_check harguments hconfig hplan hpaths (by simpa using hsome) parser settings]
    -- and every one of them can be read
    have hcontents : ((files.map (·.1)).map fun p => (p, (disk.read? p).run)) =
        files.map fun file => (file.1, some file.2) := by
      rw [List.map_map]
      exact List.map_congr_left fun file hfile => by simp [hread file hfile]
    rw [hcontents, CheckPlan.output_map_some _ hreports]

end Readable

/-- Two files, the first with a table without a key.  Warnings count as failure, but this one is
disabled, in small letters, so that none is left. -/
theorem disabled_warning_not_counted :
    let schema := "CREATE TABLE t (id INT);".toList
    let other := "CREATE TABLE u (id INT PRIMARY KEY);".toList
    let top := Node.directory
      [("a.sql".toList, .file (some schema)), ("b.sql".toList, .file (some other)),
        ("ddlgate.toml".toList, .file (some
          "disable = [\"no_primary_key\", \"E0001\"]\nfail_on_warnings = true".toList))]
    let output := (runArguments (top.disk []) .none (.standard ⟨0, 0⟩ decimal)
      ["-q".toList, "check".toList, "a.sql".toList, "b.sql".toList]).run
    (checkSchema schema).warnings = [noPrimaryKeyFinding ['t']] ∧ output = ⟨0, [], []⟩ := by
  intro schema other top output
  have harguments : Request.ofArguments
      ["-q".toList, "check".toList, "a.sql".toList, "b.sql".toList] =
        .ok ⟨true, .check ⟨["a.sql".toList, "b.sql".toList], none, none, none, [], false⟩⟩ := rfl
  have hconfig : ((top.disk []).loadConfig none).run =
      .ok ⟨[], none, none, ["no_primary_key".toList, "E0001".toList], true⟩ := by decide +kernel
  let files : List (Text × Text) := [("a.sql".toList, schema), ("b.sql".toList, other)]
  have hfiles : ["a.sql".toList, "b.sql".toList] = files.map (·.1) := rfl
  have hread : ∀ file ∈ files, ((top.disk []).read? file.1).run = some file.2 := by decide
  have hprinted := check_reports_every_file harguments hconfig rfl rfl hfiles (by decide) hread
    .none (.standard ⟨0, 0⟩ decimal)
  refine ⟨by decide +kernel, ?_⟩
  show Id.run (runArguments _ _ _ _) = _
  rw [hprinted]
  decide +kernel

/-- A check of no files: there is nothing that is invalid and no warning, but it is a failure. -/
theorem check_of_no_files_fails :
    let disk := (Node.directory []).disk []
    Request.ofArguments ["check".toList] =
        .ok ⟨false, .check ⟨[], none, none, none, [], false⟩⟩ ∧
      disk.loadConfig none = .ok .empty ∧
      runArguments disk .none (.standard ⟨0, 0⟩ decimal) ["check".toList] =
        Failure.noFilesNamed.output ∧ Failure.noFilesNamed.output.status = 2 := by
  refine ⟨rfl, rfl, rfl, rfl⟩

end SchemaIntake
