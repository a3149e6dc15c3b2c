import SchemaIntake.Proofs.Ddl.BareWords
import SchemaIntake.Proofs.Ddl.ColumnFaults
import SchemaIntake.Ddl.TableConstraint

/-!
# Names in quotes

A valid name may be written in double quotes.  To a column that makes no difference: the quotes are
taken off before the name is looked at.  From the name of a constraint they are not taken off, so it
is turned down in quotes wherever anything follows it.

## Main definitions

* `Identifier.inQuotes name` — a name in double quotes.
* `TableConstraint.named name rest` — a constraint with a name.

## Main results

* `ColumnDefinition.read_inQuotes` — **a column may have its name in quotes.**
* `TableConstraint.check_named` — what a constraint with a name is found to be.
* `Identifier.quoting_immaterial_iff` — **where quotes make a difference.**
-/

namespace SchemaIntake

open Text

variable {name : Text}

/-! ### Quotes -/

namespace Identifier

def inQuotes (name : Text) : Text := '"' :: (name ++ ['"'])

theorem isBareWord_inQuotes (h : isValid name = true) : IsBareWord (inQuotes name) where
  ne_nil := List.cons_ne_nil _ _
  plain := by
    intro c hc
    rw [inQuotes, List.mem_cons, List.mem_append, List.mem_singleton] at hc
    rcases hc with rfl | hc | rfl
    · decide
    · exact (isBareWord h).plain c hc
    · decide

/-- The quotes are no part of the name. -/
theorem unquote_inQuotes (h : isValid name = true) : unquote (inQuotes name) = name := by
  have hone : ∀ c ∈ ['"'], c = '"' := by simp
  exact unquote_append h hone hone

/-- No name starts with a quote. -/
theorem isValid_inQuotes (name : Text) : isValid (inQuotes name) = false := by
  have hquote : isStart '"' = false := rfl
  rw [inQuotes, isValid, hquote, Bool.and_false, Bool.false_and]

end Identifier

/-! ### Columns -/

namespace ColumnDefinition

/-- Nothing but the name depends on how the name is written. -/
theorem ofTokens_congr {first first' : Text}
    (h : Identifier.unquote first = Identifier.unquote first') (rest : List Text) :
    ofTokens (first :: rest) = ofTokens (first' :: rest) := by
  rw [ofTokens, ofTokens, h]
  simp only [firstMisplaced?_eq]

/-- **A column may have its name in quotes.** -/
theorem read_inQuotes (h : Identifier.isValid name = true) (rest : Text) :
    read (Identifier.inQuotes name ++ ' ' :: rest) = read (name ++ ' ' :: rest) := by
  rw [read, (Identifier.isBareWord_inQuotes h).tokens_append, read,
    (Identifier.isBareWord h).tokens_append]
  refine ofTokens_congr ?_ _
  rw [Identifier.unquote_inQuotes h, Identifier.unquote_of_isValid h]

end ColumnDefinition

/-! ### Constraints -/

namespace TableConstraint

def named (name rest : Text) : Text := "CONSTRAINT".toList ++ ' ' :: (name ++ ' ' :: rest)

theorem isBareWord_keyword : IsBareWord "CONSTRAINT".toList := by decide

theorem isNamed_named (hname : IsBareWord name) (rest : Text) :
    isNamed (upper (trim (named name rest))) = true := by
  have hend := hname.trimEnd_append ("CONSTRAINT".toList ++ [' ']) (' ' :: rest)
  rw [List.append_assoc, List.append_assoc, List.singleton_append, List.singleton_append] at hend
  have hupper : upper "CONSTRAINT".toList = "CONSTRAINT".toList := by decide
  have hspace : "CONSTRAINT ".toList = "CONSTRAINT".toList ++ [' '] := by decide
  unfold named
  rw [trim, isBareWord_keyword.trimStart_append, hend, upper_append_separator rfl, hupper, isNamed,
    List.isPrefixOf_iff_prefix, hspace, List.append_cons]
  exact List.prefix_append _ _

/-- **What a constraint with a name is found to be.**  The name is looked at only if anything
follows it. -/
theorem check_named (hname : IsBareWord name) (rest : Text) : check (named name rest) =
    if isAllBlank rest = true then .error .missingBody
    else if Identifier.isValid name = true then kind (upper (join [' '] (words rest)))
    else .error (.invalidName name) := by
  have hwords : words (trim (named name rest)) = "CONSTRAINT".toList :: name :: words rest :=
    (words_trim _).trans
      ((isBareWord_keyword.words_append _).trans (congrArg _ (hname.words_append rest)))
  have hblank := words_eq_nil_iff (t := rest)
  rw [check]
  simp only [isNamed_named hname, hwords, if_true]
  cases hbody : words rest with
  | nil => rw [if_pos (hblank.mp hbody)]
  | cons first more =>
    rw [if_neg (mt hblank.mpr (by simp [hbody]))]

/-- Names are no matter of the kind. -/
theorem kind_ne_invalidName (t name : Text) : kind t ≠ .error (.invalidName name) := by
  rw [kind]
  split <;> simp

end TableConstraint

/-! ### Where quotes make a difference -/

section Quoting

open Identifier TableConstraint

/-- **Where quotes make a difference.**  Every column is read alike with its name in quotes or
without, whatever follows.  A constraint is found to be the same with its name in quotes or without
exactly if nothing but white space follows the name, so that both are turned down for that; wherever
anything follows, it is turned down for its name in quotes, whatever it is found to be without. -/
theorem Identifier.quoting_immaterial_iff (h : isValid name = true) (rest : Text) :
    ColumnDefinition.read (inQuotes name ++ ' ' :: rest) =
      ColumnDefinition.read (name ++ ' ' :: rest) ∧
    (check (named (inQuotes name) rest) = check (named name rest) ↔ isAllBlank rest = true) ∧
    (isAllBlank rest = false →
      check (named (inQuotes name) rest) = .error (.invalidName (inQuotes name)) ∧
      check (named name rest) = kind (upper (join [' '] (words rest)))) := by
  have hquoted := check_named (isBareWord_inQuotes h) rest
  have hplain := check_named (isBareWord h) rest
  rw [isValid_inQuotes, if_neg Bool.false_ne_true] at hquoted
  rw [if_pos h] at hplain
  refine ⟨ColumnDefinition.read_inQuotes h rest, ?_⟩
  cases hblank : isAllBlank rest with
  | true =>
    rw [if_pos hblank] at hquoted hplain
    exact ⟨iff_of_true (hquoted.trans hplain.symm) rfl, fun hrest => absurd hrest (by simp)⟩
  | false =>
    rw [if_neg (by simp [hblank])] at hquoted hplain
    refine ⟨iff_of_false ?_ (by simp), fun _ => ⟨hquoted, hplain⟩⟩
    rw [hquoted, hplain]
    exact (kind_ne_invalidName _ _).symm

/-- A name in quotes that a column may have, and a constraint may not. -/
theorem Identifier.quoting_immaterial_pk :
    let name := "pk".toList
    let rest := "PRIMARY KEY (id)".toList
    isValid name = true ∧
      ColumnDefinition.read (inQuotes name ++ ' ' :: "INT NOT NULL".toList) =
        ColumnDefinition.read (name ++ ' ' :: "INT NOT NULL".toList) ∧
      check (named (inQuotes name) rest) = .error (.invalidName (inQuotes name)) ∧
      check (named name rest) = kind (upper (join [' '] (words rest))) := by
  intro name rest
  have hname : isValid name = true := by decide
  have hbody : isAllBlank rest = false := by decide
  exact ⟨hname, (quoting_immaterial_iff hname "INT NOT NULL".toList).1,
    (quoting_immaterial_iff hname rest).2.2 hbody⟩

/-- A primary key is turned down for the quotes around its name. -/
theorem quoted_primary_key_turned_down :
    named (Identifier.inQuotes "pk".toList) "PRIMARY KEY (id)".toList =
        "CONSTRAINT \"pk\" PRIMARY KEY (id)".toList ∧
      check "CONSTRAINT \"pk\" PRIMARY KEY (id)".toList =
        .error (.invalidName "\"pk\"".toList) ∧
      check "CONSTRAINT pk PRIMARY KEY (id)".toList = .ok .primaryKey := by
  decide +kernel

end Quoting

end SchemaIntake
