import SchemaIntake.Text.Basic

/-!
# TOML values

A document is built up line by line.  Whether a line may add to a table depends on how the
table came about, so every table keeps that.

## Main definitions

* `Toml` — a TOML value.  Numbers with a fraction and times are kept as they are written.
* `Toml.Origin` — how a table came about.
* `Toml.assign? path value entries` — the entries with a value under a dotted key.
* `Toml.openTable? path entries`, `Toml.openItem? path entries` — the entries after the header
  of a table, or of an item of an array of tables.
* `Toml.inside? path change entries` — a change of the table that a header has opened.

## Main results

* `Toml.lookup_alter?` — changing one entry leaves every other one as it was.
-/

namespace SchemaIntake

open Text

/-- How a table came about. -/
inductive Toml.Origin
  /-- Written in braces; it is complete. -/
  | braces
  /-- Opened by a header of its own, or the document itself. -/
  | header
  /-- Only mentioned, in the header of a table inside it. -/
  | mentioned
  /-- Made by a dotted key. -/
  | dotted
deriving DecidableEq, Repr

inductive Toml
  | string (t : Text)
  | integer (i : Int)
  /-- A number with a fraction or an exponent, an infinity or no number at all. -/
  | float (written : Text)
  | bool (b : Bool)
  /-- A date, a time of day or both. -/
  | time (written : Text)
  | array (items : List Toml)
  | table (origin : Toml.Origin) (entries : List (Text × Toml))
  /-- An array whose items are tables with headers of their own, in the order of the headers. -/
  | tables (items : List Toml)

namespace Toml

/-- The entries of a table.  No name is used twice. -/
abbrev Entries := List (Text × Toml)

/-- The value of the entry with a given name. -/
def lookup (name : Text) : Entries → Option Toml
  | [] => none
  | e :: rest => if e.1 = name then some e.2 else lookup name rest

/-! ### Changes -/

/-- Changes the entry with a given name, which may be missing. -/
def alter? (name : Text) (change : Option Toml → Option Toml) : Entries → Option Entries
  | [] => (change none).map fun v => [(name, v)]
  | e :: rest =>
    if e.1 = name then (change (some e.2)).map fun v => (name, v) :: rest
    else (alter? name change rest).map (e :: ·)

/-- After a change the entry holds what it has been changed to, and every other entry what it
has held before. -/
theorem lookup_alter? {name : Text} {change : Option Toml → Option Toml} {es es' : Entries}
    (h : alter? name change es = some es') (other : Text) :
    lookup other es' = if other = name then change (lookup name es) else lookup other es := by
  induction es generalizing es' with
  | nil =>
    obtain ⟨v, hv, rfl⟩ := Option.map_eq_some_iff.1 h
    by_cases ho : other = name
    · simp [lookup, ho, hv]
    · simp [lookup, ho, Ne.symm ho]
  | cons e rest ih =>
    rw [alter?] at h
    split at h
    · next he =>
      obtain ⟨v, hv, rfl⟩ := Option.map_eq_some_iff.1 h
      by_cases ho : other = name
      · simp [lookup, ho, he, hv]
      · simp [lookup, ho, Ne.symm ho, he]
    · next he =>
      obtain ⟨rest', hr, rfl⟩ := Option.map_eq_some_iff.1 h
      by_cases ho : other = name
      · subst ho
        simpa [lookup, he] using ih hr
      · simp only [lookup, ih hr, ho, if_false]

/-- Changes the last item of a list, which must have one. -/
def alterLast? {α : Type} (change : α → Option α) : List α → Option (List α)
  | [] => none
  | [a] => (change a).map ([·])
  | a :: rest => (alterLast? change rest).map (a :: ·)

/-- Changes the entries of a table, which must not be complete. -/
def alterTable? (change : Entries → Option Entries) : Toml → Option Toml
  | .table .braces _ => none
  | .table origin entries => (change entries).map (.table origin)
  | _ => none

/-! ### Headers -/

/-- Changes the table that a header path leads to.  Tables on the way that do not exist yet
are only mentioned by this; of an array of tables the last item is meant. -/
def inside? (change : Entries → Option Entries) : List Text → Entries → Option Entries
  | [], entries => change entries
  | name :: path, entries =>
    entries |> alter? name fun
      | none => (inside? change path []).map (.table .mentioned)
      | some (.tables items) => (alterLast? (alterTable? (inside? change path)) items).map .tables
      | some value => alterTable? (inside? change path) value

/-- Opens the table of a header.  It must be new, or only mentioned so far. -/
def openTable? (path : List Text) (entries : Entries) : Option Entries :=
  path.getLast?.bind fun name =>
    entries |> inside? (alter? name fun
      | none => some (.table .header [])
      | some (.table .mentioned entries) => some (.table .header entries)
      | some _ => none) path.dropLast

/-- Opens a new item of an array of tables.  The array must be new, or made of such items. -/
def openItem? (path : List Text) (entries : Entries) : Option Entries :=
  path.getLast?.bind fun name =>
    entries |> inside? (alter? name fun
      | none => some (.tables [.table .header []])
      | some (.tables items) => some (.tables (items ++ [.table .header []]))
      | some _ => none) path.dropLast

/-! ### Dotted keys -/

/-- Puts a value under a dotted key.  Nothing may stand there yet.  The table that holds the
value must have been made by a dotted key too, if it is not the current one; on the way to it
there may also be tables that are only mentioned, and last items of arrays of tables. -/
def assign? (value : Toml) : List Text → Entries → Option Entries
  | [], _ => none
  | name :: path, entries =>
    entries |> alter? name fun
      | none => if path.isEmpty then some value else (assign? value path []).map (.table .dotted)
      | some (.table .dotted entries) => (assign? value path entries).map (.table .dotted)
      | some (.table .mentioned entries) =>
        if path.length < 2 then none else (assign? value path entries).map (.table .mentioned)
      | some (.tables items) =>
        if path.length < 2 then none
        else (alterLast? (alterTable? (assign? value path)) items).map .tables
      | some _ => none

end Toml

end SchemaIntake
