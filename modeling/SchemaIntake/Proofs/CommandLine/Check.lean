import SchemaIntake.CommandLine.Commands
import SchemaIntake.Proofs.Files.Selection

/-!
# Checking files

The command `check` is successful only if all files that it has read are valid schemas.  Which files
these are is said by the arguments: one without special characters is the path of a file, and any
other is a pattern, also where there is a file of that name.

## Main definitions

* `Disk.HoldsValidSchema disk path` — a path leads to a file that holds a valid schema.

## Main results

* `CheckPlan.valid_of_status_output` — after success every file is readable and valid.
* `CheckOptions.run_eq` — the command, step by step.
* `check_reads_selected_files` — **which files have been read and found valid after success**.
* `bracketed_file_not_read` — a file whose name has a bracket is passed over.
-/

namespace SchemaIntake

open Text

namespace CheckPlan

variable {plan : CheckPlan} {files : List (Text × Option Text)}

/-- After success every file is readable and valid. -/
theorem valid_of_status_output (h : (plan.output files).status = 0) :
    ∀ file ∈ files, ∃ content, file.2 = some content ∧ (checkSchema content).isValid = true := by
  rw [output] at h
  cases hunreadable : (untilUnreadable files).2 with
  | some path => simp [hunreadable, Failure.outputAfter] at h
  | none =>
    simp only [hunreadable] at h
    rw [untilUnreadable_eq_none_iff.mp hunreadable]
    intro file hfile
    obtain ⟨read, hread, rfl⟩ := List.mem_map.mp hfile
    refine ⟨read.2, rfl, ?_⟩
    by_contra hinvalid
    -- a file that is not valid makes the status 1
    rw [status, if_pos] at h
    · exact absurd h (by decide)
    · rw [Bool.or_eq_true, List.any_eq_true]
      refine Or.inl ⟨plan.report read.2, List.mem_map_of_mem (List.mem_map_of_mem hread), ?_⟩
      simpa [report, Report.withoutWarnings] using hinvalid

end CheckPlan

/-- The command, step by step. -/
theorem CheckOptions.run_eq (disk : Disk Id) (quiet : Bool) (options : CheckOptions) :
    options.run disk quiet =
      match disk.loadConfig options.config with
      | .error failure => failure.output
      | .ok config =>
        let config := config.overriddenBy options.files options.format options.optimization
          options.disable options.failOnWarnings
        match config.plan quiet with
        | .error failure => failure.output
        | .ok plan =>
          match disk.expand config.files with
          | none => Failure.malformedPattern.output
          | some [] => Failure.noFilesNamed.output
          | some paths => plan.output (paths.map fun p => (p, (disk.read? p).run)) := by
  have hread (paths : List Text) :
      disk.readAll paths = paths.map fun p => (p, (disk.read? p).run) := Disk.mapM_id _ _
  rw [run]
  simp only [← hread]
  rfl

/-- After success there is a plan, and some paths that the files given stand for. -/
theorem CheckOptions.exists_paths_of_status {disk : Disk Id} {quiet : Bool} {options : CheckOptions}
    (h : (options.run disk quiet).run.status = 0) : ∃ (config : Config) (plan : CheckPlan)
      (paths : List Text),
      disk.expand (if options.files.isEmpty then config.files else options.files) = some paths ∧
      options.run disk quiet = plan.output (paths.map fun p => (p, (disk.read? p).run)) := by
  -- every other way out is that of a failure
  have hfailure (failure : Failure) : (Id.run failure.output).status ≠ 0 := Nat.succ_ne_zero 1
  rw [run_eq] at h ⊢
  cases hconfig : disk.loadConfig options.config with
  | error failure =>
    rw [hconfig] at h
    exact absurd h (hfailure failure)
  | ok config =>
    rw [hconfig] at h
    dsimp only at h ⊢
    cases hplan : (config.overriddenBy options.files options.format options.optimization
        options.disable options.failOnWarnings).plan quiet with
    | error failure =>
      rw [hplan] at h
      exact absurd h (hfailure failure)
    | ok plan =>
      rw [hplan] at h
      dsimp only at h ⊢
      cases hpaths : disk.expand
          (if options.files.isEmpty then config.files else options.files) with
      | none =>
        rw [Config.overriddenBy, hpaths] at h
        exact absurd h (hfailure .malformedPattern)
      | some paths =>
        refine ⟨config, plan, paths, hpaths, ?_⟩
        rw [Config.overriddenBy, hpaths] at h ⊢
        cases paths with
        | nil => exact absurd h (hfailure .noFilesNamed)
        | cons path paths => rfl

/-- The command with all that it needs prints what it has found in some files. -/
theorem runArguments_check {disk : Disk Id} {arguments paths : List Text} {quiet : Bool}
    {options : CheckOptions} {config : Config} {plan : CheckPlan}
    (harguments : Request.ofArguments arguments = .ok ⟨quiet, .check options⟩)
    (hconfig : disk.loadConfig options.config = .ok config)
    (hplan : (config.overriddenBy options.files options.format options.optimization
      options.disable options.failOnWarnings).plan quiet = .ok plan)
    (hpaths : disk.expand (config.overriddenBy options.files options.format options.optimization
      options.disable options.failOnWarnings).files = some paths) (hne : paths ≠ [])
    (parser : SqlParser) (settings : Settings) : runArguments disk parser settings arguments =
      plan.output (paths.map fun p => (p, (disk.read? p).run)) := by
  obtain ⟨path, rest, rfl⟩ := List.exists_cons_of_ne_nil hne
  rw [runArguments, harguments]
  change options.run disk quiet = _
  rw [CheckOptions.run_eq, hconfig]
  dsimp only
  rw [hplan, hpaths]

/-- Where there are no files to check the command fails. -/
theorem runArguments_check_nil {disk : Disk Id} {arguments : List Text} {quiet : Bool}
    {options : CheckOptions} {config : Config} {plan : CheckPlan}
    (harguments : Request.ofArguments arguments = .ok ⟨quiet, .check options⟩)
    (hconfig : disk.loadConfig options.config = .ok config)
    (hplan : (config.overriddenBy options.files options.format options.optimization
      options.disable options.failOnWarnings).plan quiet = .ok plan)
    (hpaths : disk.expand (config.overriddenBy options.files options.format options.optimization
      options.disable options.failOnWarnings).files = some [])
    (parser : SqlParser) (settings : Settings) :
    runArguments disk parser settings arguments = Failure.noFilesNamed.output := by
  rw [runArguments, harguments]
  change options.run disk quiet = _
  rw [CheckOptions.run_eq, hconfig]
  dsimp only
  rw [hplan, hpaths]

/-- A path leads to a file that holds a valid schema. -/
def Disk.HoldsValidSchema (disk : Disk Id) (path : Text) : Prop :=
  ∃ content, (disk.read? path).run = some content ∧ (checkSchema content).isValid = true

section Trees

variable {top : Node} {current : List Text} {t : Text} {arguments paths : List Text}

/-- Among the paths that some arguments stand for is one to the file that an argument names, if this
is no pattern or a pattern that selects itself. -/
theorem exists_path_of_argument (hpaths : (top.disk current).expand arguments = some paths)
    (ht : t ∈ arguments) (hfile : ((top.disk current).kind? t).run = some .file)
    (hown : Pattern.isOne t = false ∨ Pattern.IsItsOwn t) :
    ∃ p ∈ paths, Path.isAbsolute p = Path.isAbsolute t ∧ Path.names p = Path.names t ∧
      ((top.disk current).read? p).run = ((top.disk current).read? t).run := by
  cases hone : Pattern.isOne t with
  | false =>
    refine ⟨t, (Disk.mem_expand_iff hpaths).mpr ⟨t, ht, ?_⟩, rfl, rfl, rfl⟩
    simp [Disk.Selects, hone]
  | true =>
    obtain ⟨pattern, hpattern⟩ := Disk.exists_pattern_of_expand hpaths ht hone
    obtain ⟨node, hnode, -⟩ : ∃ node, top.find? current t = some node ∧ node.kind = .file :=
      Option.map_eq_some_iff.mp hfile
    -- a pattern that selects its own name leads to the same file
    obtain ⟨p, hp, habsolute, hnames, hfind⟩ := Node.exists_mem_select_of_isItsOwn hnode
      (hown.resolve_left (by simp [hone])) hpattern
    refine ⟨p, (Disk.mem_expand_iff hpaths).mpr ⟨t, ht, ?_⟩, habsolute, hnames, ?_⟩
    · simpa [Disk.Selects, hone, hpattern] using hp
    · have hsame : top.find? current p = top.find? current t := hfind.trans hnode.symm
      simp only [Node.disk, hsame]

/-- **Which files have been read and found valid after success**: those that the arguments stand
for, and no others.  If the arguments are paths of files, absolute or not, the files that they lead
to are among them, except where an argument is a pattern that does not select itself. -/
theorem check_reads_selected_files {parser : SqlParser} {settings : Settings} {quiet : Bool}
    {options : CheckOptions}
    (harguments : Request.ofArguments arguments = .ok ⟨quiet, .check options⟩)
    (hfiles : ∀ t ∈ options.files, ((top.disk current).kind? t).run = some .file)
    (hstatus : (runArguments (top.disk current) parser settings arguments).run.status = 0) :
    ∃ (plan : CheckPlan) (paths : List Text),
      runArguments (top.disk current) parser settings arguments =
        plan.output (paths.map fun p => (p, ((top.disk current).read? p).run)) ∧
      (∀ p ∈ paths, (top.disk current).HoldsValidSchema p) ∧
      (options.files ≠ [] → ∀ p, p ∈ paths ↔ ∃ t ∈ options.files, (top.disk current).Selects t p) ∧
      ∀ t ∈ options.files, Pattern.isOne t = false ∨ Pattern.IsItsOwn t →
        (top.disk current).HoldsValidSchema t ∧ ∃ p ∈ paths,
          Path.isAbsolute p = Path.isAbsolute t ∧ Path.names p = Path.names t ∧
            ((top.disk current).read? p).run = ((top.disk current).read? t).run := by
  have hrun : runArguments (top.disk current) parser settings arguments =
      options.run (top.disk current) quiet := by
    rw [runArguments, harguments]
    rfl
  rw [hrun] at hstatus ⊢
  obtain ⟨config, plan, paths, hpaths, houtput⟩ := CheckOptions.exists_paths_of_status hstatus
  rw [houtput] at hstatus
  have hvalid : ∀ p ∈ paths, (top.disk current).HoldsValidSchema p := fun p hp =>
    CheckPlan.valid_of_status_output hstatus _ (List.mem_map_of_mem hp)
  refine ⟨plan, paths, houtput, hvalid, fun hne p => ?_, fun t ht hown => ?_⟩
  · rw [if_neg (by simpa using hne)] at hpaths
    exact Disk.mem_expand_iff hpaths
  · rw [if_neg (by simpa using List.ne_nil_of_mem ht)] at hpaths
    obtain ⟨p, hp, habsolute, hnames, hread⟩ := exists_path_of_argument hpaths ht (hfiles t ht) hown
    obtain ⟨content, hcontent, hcheck⟩ := hvalid p hp
    exact ⟨⟨content, hread.symm.trans hcontent, hcheck⟩, p, hp, habsolute, hnames, hread⟩

/-- From a directory, a file outside of it is read by its absolute path.  A file whose name has a
question mark is read, and so is another one that its name selects. -/
theorem question_mark_read :
    let schema := "CREATE TABLE t (id INT PRIMARY KEY);".toList
    let inner := Node.directory
      [("a?.sql".toList, .file (some schema)), ("ab.sql".toList, .file (some schema))]
    let top := Node.directory [("d".toList, inner), ("c.sql".toList, .file (some schema))]
    let disk := top.disk ["d".toList]
    let arguments := ["check".toList, "/c.sql".toList, "a?.sql".toList]
    (runArguments disk .none (.standard ⟨0, 0⟩ decimal) arguments).run.status = 0 ∧
      ∃ (plan : CheckPlan) (paths : List Text),
        runArguments disk .none (.standard ⟨0, 0⟩ decimal) arguments =
          plan.output (paths.map fun p => (p, (disk.read? p).run)) ∧
        "ab.sql".toList ∈ paths ∧
        disk.HoldsValidSchema "/c.sql".toList ∧ disk.HoldsValidSchema "a?.sql".toList ∧
        (∃ p ∈ paths, Path.isAbsolute p = true ∧ Path.names p = ["c.sql".toList]) ∧
        ∃ p ∈ paths, Path.names p = ["a?.sql".toList] := by
  intro schema inner top disk arguments
  let pieces : List Pattern.Piece :=
    [.char 'a', .anyChar, .char '.', .char 's', .char 'q', .char 'l']
  have hread : Pattern.read? "a?.sql".toList = some ⟨false, [.wild pieces], false⟩ := rfl
  -- `mergeSort` does not reduce, so the sorted order is supplied
  have hselect : (disk.select ⟨false, [.wild pieces], false⟩).run =
      ["a?.sql".toList, "ab.sql".toList] := by
    have hsorted : ["a?.sql".toList, "ab.sql".toList].mergeSort inOrder =
      ["a?.sql".toList, "ab.sql".toList] := List.mergeSort_of_pairwise (by decide)
    rw [Disk.select_wild rfl]
    exact congrArg (List.filter _) hsorted
  have hexpand : disk.expand ["/c.sql".toList, "a?.sql".toList] =
      some ["/c.sql".toList, "a?.sql".toList, "ab.sql".toList] := by
    rw [Disk.expand_cons_of_not_isOne (by decide), Disk.expand_cons_of_isOne (by decide), hread]
    exact congrArg (fun paths => some ("/c.sql".toList :: (paths ++ []))) hselect
  have harguments : Request.ofArguments arguments = .ok ⟨false, .check
      ⟨["/c.sql".toList, "a?.sql".toList], none, none, none, [], false⟩⟩ := rfl
  have hrun :=
    runArguments_check harguments rfl rfl hexpand (by simp) .none (.standard ⟨0, 0⟩ decimal)
  have hstatus : (runArguments disk .none (.standard ⟨0, 0⟩ decimal) arguments).run.status = 0 := by
    rw [hrun]
    decide +kernel
  obtain ⟨plan, paths, houtput, hvalid, hselected, hown⟩ :=
    check_reads_selected_files harguments (by decide) hstatus
  obtain ⟨houter, c, hc, habsolute, hcnames, -⟩ :=
    hown "/c.sql".toList List.mem_cons_self (.inl rfl)
  obtain ⟨hschema, p, hp, -, hnames, -⟩ := hown "a?.sql".toList (by simp) (.inr (by decide))
  refine ⟨hstatus, plan, paths, houtput, ?_, houter, hschema, ⟨c, hc, habsolute, hcnames⟩, p, hp,
    hnames⟩
  refine (hselected (by decide) _).mpr ⟨"a?.sql".toList, by simp, ?_⟩
  refine (if_pos (by decide)).mpr ⟨_, hread, ?_⟩
  rw [hselect]
  exact List.mem_cons_of_mem _ List.mem_cons_self

/-- A file whose name has a bracket is passed over: its name is a pattern for other names.  No file
is read where help is asked for. -/
theorem bracketed_file_not_read :
    let top := Node.directory
      [("a[1].sql".toList, .file (some "nonsense".toList)),
        ("ok.sql".toList, .file (some "CREATE TABLE t (id INT PRIMARY KEY);".toList))]
    let arguments := ["check".toList, "ok.sql".toList, "a[1].sql".toList]
    (∀ t ∈ arguments.tail, ((top.disk []).kind? t).run = some .file) ∧
      ¬ (top.disk []).HoldsValidSchema "a[1].sql".toList ∧
      (runArguments (top.disk []) .none (.standard ⟨0, 0⟩ decimal) arguments).run.status = 0 ∧
      (runArguments (top.disk []) .none (.standard ⟨0, 0⟩ decimal)
        ["check".toList, "--help".toList, "a[1].sql".toList]).run.status = 0 := by
  intro top arguments
  let pieces : List Pattern.Piece :=
    [.char 'a', .oneOf [⟨'1', '1'⟩], .char '.', .char 's', .char 'q', .char 'l']
  have hread : Pattern.read? "a[1].sql".toList = some ⟨false, [.wild pieces], false⟩ := rfl
  -- the brackets stand for one character, so the pattern does not select the file named so
  have hselect : ((top.disk []).select ⟨false, [.wild pieces], false⟩).run = [] := by
    have hnone : ∀ name ∈ ["a[1].sql".toList, "ok.sql".toList].mergeSort inOrder,
        ¬ Pattern.matchesName pieces name = true := by
      intro name hname
      exact (by decide : ∀ name ∈ ["a[1].sql".toList, "ok.sql".toList],
        ¬ Pattern.matchesName pieces name = true) name (List.mem_mergeSort.mp hname)
    rw [Disk.select_wild rfl]
    exact List.filter_eq_nil_iff.mpr hnone
  have hexpand : (top.disk []).expand arguments.tail = some ["ok.sql".toList] := by
    change (top.disk []).expand ["ok.sql".toList, "a[1].sql".toList] = _
    rw [Disk.expand_cons_of_not_isOne (by decide), Disk.expand_cons_of_isOne (by decide), hread]
    exact congrArg (fun paths => some ("ok.sql".toList :: (paths ++ []))) hselect
  have harguments : Request.ofArguments arguments =
      .ok ⟨false, .check ⟨arguments.tail, none, none, none, [], false⟩⟩ := rfl
  have hrun :=
    runArguments_check harguments rfl rfl hexpand (by simp) .none (.standard ⟨0, 0⟩ decimal)
  refine ⟨by decide, ?_, ?_, ?_⟩
  · rintro ⟨content, hcontent, hvalid⟩
    obtain rfl : "nonsense".toList = content := Option.some.inj hcontent
    exact absurd hvalid (by decide +kernel)
  · rw [hrun]
    decide +kernel
  · decide +kernel

end Trees

end SchemaIntake
