import SchemaIntake.CommandLine.OutputFormat
import SchemaIntake.Conversion.Optimization
import SchemaIntake.Schema.Finding
import SchemaIntake.Toml.Reader

/-!
# Configuration

What the command `check` is told to do, by a file and by options on the command line.

## Main definitions

* `Config`, `Config.ofText? t` — a configuration, read from TOML.
* `Config.overriddenBy` — a configuration with the options of the command line put in.
* `Config.outputFormat`, `Config.optimizationType`, `Config.disabledWarnings` — what the texts
  in a configuration mean.

## Main results

* `Config.isWarning_of_mem_disabledWarnings` — nothing but warnings can be disabled.
-/

namespace SchemaIntake

open Text

/-! ### Reading values -/

namespace Toml

def text? : Toml → Option Text
  | .string t => some t
  | _ => none

def bool? : Toml → Option Bool
  | .bool b => some b
  | _ => none

def texts? : Toml → Option (List Text)
  | .array items => items.mapM text?
  | _ => none

/-- The value under a name, if there is one; it must be of the right kind. -/
def field? {α : Type} (read : Toml → Option α) (name : String) (entries : Entries) :
    Option (Option α) :=
  match lookup name.toList entries with
  | none => some none
  | some v => (read v).map some

end Toml

/-! ### Configurations -/

/-- What the command `check` is told to do. -/
structure Config where
  /-- The files to check, as paths and patterns. -/
  files : List Text
  format : Option Text
  /-- The optimization type noted in reports. -/
  optimization : Option Text
  /-- The codes of the warnings that are not reported. -/
  disable : List Text
  failOnWarnings : Bool
deriving DecidableEq, Repr

namespace Config

def empty : Config := ⟨[], none, none, [], false⟩

/-- The configuration that a TOML document gives.  Entries with other names are passed over. -/
def ofText? (t : Text) : Option Config := do
  let entries ← Toml.parse? t
  let files ← Toml.field? Toml.texts? "files" entries
  let format ← Toml.field? Toml.text? "format" entries
  let optimization ← Toml.field? Toml.text? "optimization" entries
  let disable ← Toml.field? Toml.texts? "disable" entries
  let failOnWarnings ← Toml.field? Toml.bool? "fail_on_warnings" entries
  some ⟨files.getD [], format, optimization, disable.getD [], failOnWarnings.getD false⟩

/-- The configuration with the options of the command line put in: a list that is not empty and
a value that is given take the place of what was configured. -/
def overriddenBy (config : Config) (files : List Text) (format : Option OutputFormat)
    (optimization : Option Text) (disable : List Text) (failOnWarnings : Bool) : Config where
  files := if files.isEmpty then config.files else files
  format := (format.map OutputFormat.name).or config.format
  optimization := optimization.or config.optimization
  disable := if disable.isEmpty then config.disable else disable
  failOnWarnings := failOnWarnings || config.failOnWarnings

/-- How reports are printed: for people, unless something else is configured. -/
def outputFormat (config : Config) : Except UnknownOutputFormat OutputFormat :=
  match config.format with
  | none => .ok .human
  | some t => OutputFormat.read t

/-- The optimization type noted in reports: balanced, unless something else is configured. -/
def optimizationType (config : Config) : Except UnknownOptimization Optimization :=
  match config.optimization with
  | none => .ok .balanced
  | some t => Optimization.read t

/-- The warnings that are not reported.  The case of a code is left aside; what is not the code
of a warning is passed over, so that a configuration can never make a schema valid.  That it is
passed over is said in the log only. -/
def disabledWarnings (config : Config) : List Code :=
  config.disable.filterMap fun t => (Code.ofName? (upper t)).filter (·.isWarning)

/-- Nothing but warnings can be disabled. -/
theorem isWarning_of_mem_disabledWarnings {config : Config} {code : Code}
    (h : code ∈ config.disabledWarnings) : code.isWarning = true := by
  obtain ⟨t, -, ht⟩ := List.mem_filterMap.1 h
  exact (Option.filter_eq_some_iff.1 ht).2

end Config

end SchemaIntake
