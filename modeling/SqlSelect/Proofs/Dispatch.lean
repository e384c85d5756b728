import Mathlib.Data.List.Forall2
import SqlSelect.Proofs.Canonical
import SqlSelect.Query.Where
set_option autoImplicit false

/-! The step that takes any operator does what the step made for that operator does, however the operator is
spelled. An operator without a step of its own makes a comparison. -/
namespace SqlSelect

namespace Operator

/-- The words are those of the form, in any case and with any white space between and around them. -/
def SpellingOf (op form : String) : Prop :=
  List.Forall₂ Text.SameLetters (Text.wordChars op.toList) (Text.wordChars form.toList)

theorem spellingOf_iff {op form : String} :
    SpellingOf op form ↔ canonicalWords op = canonicalWords form := by
  have letters : SpellingOf op form ↔
      (Text.wordChars op.toList).map (List.map Char.toUpper) =
        (Text.wordChars form.toList).map (List.map Char.toUpper) := by
    rw [← List.forall₂_eq_eq_eq, List.forall₂_map_left_iff, List.forall₂_map_right_iff]
    rfl
  rw [letters, ← toList_canonicalWords, ← toList_canonicalWords]
  exact (List.map_injective_iff.2 fun _ _ same => String.toList_injective same).eq_iff

instance (op form : String) : Decidable (SpellingOf op form) :=
  inferInstanceAs (Decidable (List.Forall₂ _ _ _))

theorem ofText_spelled {op : String} {o : Operator} (named : ∀ text, o ≠ comparison text)
    (spelled : SpellingOf op o.form) : ofText op = o :=
  (ofText_eq_iff named).2 (spellingOf_iff.1 spelled)

theorem ofText_other {op : String} (other : ∀ form ∈ reserved, ¬ SpellingOf op form) :
    ofText op = comparison (Text.trim op) := by
  by_cases named : ∃ text, ofText op = comparison text
  · obtain ⟨text, read⟩ := named
    rw [read, (ofText_eq_comparison read).1]
  · -- What is read as another operator has the words of its form, and this form is a reserved one.
    have reserved := form_mem_reserved fun text read => named ⟨text, read⟩
    exact absurd (spellingOf_iff.2 (canonicalWords_form_ofText op).symm) (other _ reserved)

end Operator

namespace Predicate

/-- The one value that the arguments of a comparison come to, null if there are none and an array if there are
several. -/
inductive Compared : List Arg → Value → Prop where
  | missing : Compared [] .null
  | one (arg : Arg) : Compared [arg] arg.toValue
  | several {args : List Arg} (more : 1 < args.length) : Compared args (.array (args.map Arg.toValue))

theorem compared_comparand (args : List Arg) : Compared args (comparand args) := by
  match args with
  | [] => exact .missing
  | [arg] => exact .one arg
  | first :: second :: rest =>
    have array : comparand (first :: second :: rest) =
        .array ((first :: second :: rest).map Arg.toValue) := by
      rw [← Arg.toValues_eq_map]
      rfl
    rw [array]
    exact .several (by simp)

end Predicate

namespace Query

open Operator
open Predicate (Compared)

theorem whereOp_of_spelled (q : Query) (link : Link) (column : String) {op : String} {o : Operator}
    (named : ∀ text, o ≠ comparison text) (spelled : SpellingOf op o.form) (args : List Arg) :
    q.whereOp link column op args = q.addChecked link (Predicate.ofOperator column o args) := by
  rw [whereOp, ofText_spelled named spelled]

theorem whereOp_of_other (q : Query) (link : Link) (column : String) {op : String}
    (other : ∀ form ∈ reserved, ¬ SpellingOf op form) (args : List Arg) :
    q.whereOp link column op args =
      q.addChecked link (Predicate.ofComparison column (Text.trim op) args) := by
  rw [whereOp, ofText_other other, Predicate.ofOperator]

/-- A comparison is checked for its column only. -/
theorem addChecked_ofComparison (q : Query) (link : Link) (column op : String) (args : List Arg) :
    q.addChecked link (Predicate.ofComparison column op args) =
      if Text.trim column = "" then { q with fault := q.fault.or (some .emptyColumn) }
      else { q with
        conditions := q.conditions ++
          [⟨link, .comparison (Text.trim column) op (Predicate.comparand args)⟩] } := by
  unfold Predicate.ofComparison
  by_cases blank : Text.trim column = ""
  · rw [checkName_of_blank _ blank, if_pos blank]
    rfl
  · rw [checkName_of_written _ blank, if_neg blank]
    rfl

/-- The step that takes any operator agrees with the steps for membership, ranges and null tests on the whole
query, faults included. A range takes its ends one by one or in a sequence. Existence is refused for want of a
query. Any other operator adds one comparison, of the column with the one value that the arguments make, and
touches nothing else. -/
theorem whereOp_spelled (q : Query) (link : Link) (column op : String) :
    (∀ negated args, SpellingOf op (form (.membership negated)) →
      q.whereOp link column op args = q.whereIn link negated column args) ∧
    (∀ negated, SpellingOf op (form (.between negated)) →
      (∀ low high, q.whereOp link column op [low, high] = q.whereBetween link negated column low high ∧
        q.whereOp link column op [.list [low, high]] = q.whereOp link column op [low, high]) ∧
      ∀ v w, q.whereOp link column op [.value (.array [v, w])] =
        q.whereOp link column op [.value v, .value w]) ∧
    (∀ negated args, SpellingOf op (form (.nullTest negated)) →
      q.whereOp link column op args = q.whereNull link negated column) ∧
    (∀ negated args, SpellingOf op (form (.existence negated)) →
      q.whereOp link column op args = { q with fault := q.fault.or (some .missingSubquery) }) ∧
    ∀ args, (∀ form ∈ reserved, ¬ SpellingOf op form) →
      ∃ value, Compared args value ∧
        q.whereOp link column op args =
          if Text.trim column = "" then { q with fault := q.fault.or (some .emptyColumn) }
          else { q with
            conditions := q.conditions ++ [⟨link, .comparison (Text.trim column) (Text.trim op) value⟩] } := by
  refine ⟨fun negated args spelled => ?_, fun negated spelled => ?_, fun negated args spelled => ?_,
    fun negated args spelled => ?_, fun args other => ?_⟩
  · exact whereOp_of_spelled (o := .membership negated) q link column nofun spelled args
  · have range := whereOp_of_spelled (o := .between negated) q link column nofun spelled
    refine ⟨fun low high => ⟨range [low, high], ?_⟩, fun v w => ?_⟩
    · rw [range, range]
      rfl
    · rw [range, range]
      rfl
  · exact whereOp_of_spelled (o := .nullTest negated) q link column nofun spelled args
  · exact whereOp_of_spelled (o := .existence negated) q link column nofun spelled args
  · refine ⟨_, Predicate.compared_comparand args, ?_⟩
    rw [whereOp_of_other q link column other, addChecked_ofComparison]

/-- A membership in odd letters and white space, a comparison with two arguments, one without a column, and an
existence without a query. -/
theorem whereOp_spelled_not_in :
    empty.whereOp .or " id" "\u2003nOt\t In\u00a0" [.list [.value (.int 1)]] =
      { empty with conditions := [⟨.or, .membership "id" true [.int 1]⟩] } ∧
    empty.whereOp .and " id" " not like " [.value (.int 1), .list [.null]] =
      { empty with conditions := [⟨.and, .comparison "id" "not like" (.array [.int 1, .array [.null]])⟩] } ∧
    empty.whereOp .and "\t" " not like " [] = { empty with fault := some .emptyColumn } ∧
    empty.whereOp .and "id" "Exists" [] = { empty with fault := some .missingSubquery } := by
  have trimmed : Text.trim " id" = "id" ∧ Text.trim " not like " = "not like" ∧ Text.trim "\t" = "" := by
    decide +kernel
  have membership : SpellingOf "\u2003nOt\t In\u00a0" (form (.membership true)) := by decide +kernel
  have existence : SpellingOf "Exists" (form (.existence false)) := by decide +kernel
  have other : ∀ form ∈ reserved, ¬ SpellingOf " not like " form := by decide +kernel
  refine ⟨?_, ?_, ?_, ?_⟩
  · have written : Text.trim " id" ≠ "" := by
      rw [trimmed.1]
      decide
    rw [(whereOp_spelled empty .or " id" _).1 true _ membership, whereIn, Predicate.ofMembership,
      checkName_of_written _ written, trimmed.1]
    rfl
  · obtain ⟨value, compared, added⟩ := (whereOp_spelled empty .and " id" " not like ").2.2.2.2 _ other
    cases compared with
    | several =>
      rw [added, trimmed.1, trimmed.2.1, if_neg (by decide)]
      rfl
  · obtain ⟨value, -, refused⟩ := (whereOp_spelled empty .and "\t" " not like ").2.2.2.2 [] other
    rw [refused, trimmed.2.2, if_pos rfl]
    rfl
  · exact (whereOp_spelled empty .and "id" "Exists").2.2.2.1 false [] existence

end Query

end SqlSelect
