import SqlSelect.Proofs.Dispatch
import SqlSelect.Proofs.Flattening
set_option autoImplicit false

/-! The bounds of a range. They are given one by one or in one sequence, and both have to be scalars. A bound
that is a sequence is reported before a bound that is null, and whatever is no pair counts as null. -/
namespace SqlSelect

namespace Arg

/-- The arguments are these two, one by one or in a sequence. -/
inductive IsPair : List Arg → Arg → Arg → Prop where
  | apart (low high : Arg) : IsPair [low, high] low high
  | list (low high : Arg) : IsPair [.list [low, high]] low high
  | array (low high : Value) : IsPair [.value (.array [low, high])] (.value low) (.value high)

inductive IsSequence : Arg → Prop where
  | list (items : List Arg) : IsSequence (.list items)
  | array (values : List Value) : IsSequence (.value (.array values))

theorem isSequence_or (arg : Arg) :
    arg.IsSequence ∨ ∃ v, arg = .value v ∧ ∀ items, v ≠ .array items := by
  cases arg with
  | list items => exact Or.inl (.list items)
  | value v =>
    cases v with
    | array values => exact Or.inl (.array values)
    | null | bool | int | float | text | blob => exact Or.inr ⟨_, rfl, nofun⟩

theorem not_isSequence_value {v : Value} (notArray : ∀ items, v ≠ .array items) :
    ¬ (value v).IsSequence := by
  intro sequence
  cases sequence with
  | array values => exact notArray values rfl

end Arg

namespace Predicate

open Arg (IsPair)

theorem endpoints?_eq_some_iff {args : List Arg} {low high : Arg} :
    endpoints? args = some (low, high) ↔ IsPair args low high := by
  constructor
  · intro found
    unfold endpoints? at found
    split at found
    · cases found
      exact .apart low high
    · cases found
      exact .list low high
    · cases found
      exact .array _ _
    · cases found
  · intro pair
    cases pair <;> rfl

theorem scalarBound_of_isSequence {arg : Arg} (sequence : arg.IsSequence) :
    scalarBound arg = .error (.typeMismatch .boundNotScalar) := by
  cases sequence <;> rfl

theorem scalarBound_value {v : Value} (notArray : ∀ items, v ≠ .array items) :
    scalarBound (.value v) = .ok v := by
  cases v with
  | array items => exact absurd rfl (notArray items)
  | null | bool | int | float | text | blob => rfl

section Pair

variable {args : List Arg}

theorem bounds_of_pair {low high : Arg} (pair : IsPair args low high) :
    bounds args = (do
      let v ← scalarBound low
      let w ← scalarBound high
      if v.isNull || w.isNull then .error .nullArgument else .ok (v, w)) := by
  unfold bounds
  rw [endpoints?_eq_some_iff.2 pair]

theorem bounds_of_no_pair (none : ∀ low high, ¬ IsPair args low high) :
    bounds args = .error .nullArgument := by
  unfold bounds
  cases found : endpoints? args with
  | none => rfl
  | some ends => exact absurd (endpoints?_eq_some_iff.1 found) (none ends.1 ends.2)

theorem bounds_of_isSequence {low high : Arg} (pair : IsPair args low high)
    (sequence : low.IsSequence ∨ high.IsSequence) :
    bounds args = .error (.typeMismatch .boundNotScalar) := by
  rw [bounds_of_pair pair]
  rcases low.isSequence_or with lower | ⟨v, rfl, notArray⟩
  · rw [scalarBound_of_isSequence lower]
    rfl
  · -- The first bound passes, null or not, so that it is the second one that is a sequence.
    have upper := sequence.resolve_left (Arg.not_isSequence_value notArray)
    rw [scalarBound_value notArray, scalarBound_of_isSequence upper]
    rfl

theorem bounds_of_values {low high : Value} (pair : IsPair args (.value low) (.value high))
    (lower : ∀ items, low ≠ .array items) (upper : ∀ items, high ≠ .array items) :
    bounds args =
      if low.isNull || high.isNull then .error .nullArgument else .ok (low, high) := by
  rw [bounds_of_pair pair, scalarBound_value lower, scalarBound_value upper]
  rfl

theorem bounds_of_isScalar {low high : Value} (pair : IsPair args (.value low) (.value high))
    (lower : low.IsScalar) (upper : high.IsScalar) : bounds args = .ok (low, high) := by
  have present : ¬ (low.isNull || high.isNull) := by
    simp only [Bool.or_eq_true, Value.isNull_iff, not_or]
    exact ⟨lower.1, upper.1⟩
  rw [bounds_of_values pair lower.2 upper.2, if_neg present]

/-- Arguments that are neither a pair of scalars nor a pair with a sequence in it count as a null. -/
theorem bounds_cases (args : List Arg) :
    (∃ low high : Value, IsPair args (.value low) (.value high) ∧ low.IsScalar ∧ high.IsScalar) ∨
      (∃ low high, IsPair args low high ∧ (low.IsSequence ∨ high.IsSequence)) ∨
      bounds args = .error .nullArgument := by
  by_cases paired : ∃ low high, IsPair args low high
  · obtain ⟨low, high, pair⟩ := paired
    rcases low.isSequence_or with lower | ⟨v, rfl, lower⟩
    · exact Or.inr (Or.inl ⟨low, high, pair, Or.inl lower⟩)
    rcases high.isSequence_or with upper | ⟨w, rfl, upper⟩
    · exact Or.inr (Or.inl ⟨.value v, high, pair, Or.inr upper⟩)
    have checked := bounds_of_values pair lower upper
    by_cases absent : v.isNull || w.isNull
    · rw [if_pos absent] at checked
      exact Or.inr (Or.inr checked)
    · simp only [Bool.or_eq_true, Value.isNull_iff, not_or] at absent
      exact Or.inl ⟨v, w, pair, ⟨absent.1, lower⟩, absent.2, upper⟩
  · have none : ∀ low high, ¬ IsPair args low high := fun low high pair => paired ⟨low, high, pair⟩
    exact Or.inr (Or.inr (bounds_of_no_pair none))

/-- A range takes exactly the pairs of scalars. -/
theorem bounds_eq_ok_iff {low high : Value} :
    bounds args = .ok (low, high) ↔
      IsPair args (.value low) (.value high) ∧ low.IsScalar ∧ high.IsScalar := by
  constructor
  · intro ok
    rcases bounds_cases args with ⟨v, w, pair, lower, upper⟩ | ⟨a, b, pair, sequence⟩ | null
    · rw [bounds_of_isScalar pair lower upper] at ok
      cases ok
      exact ⟨pair, lower, upper⟩
    · rw [bounds_of_isSequence pair sequence] at ok
      cases ok
    · rw [null] at ok
      cases ok
  · rintro ⟨pair, lower, upper⟩
    exact bounds_of_isScalar pair lower upper

end Pair

end Predicate

namespace Query

open Arg (IsPair)
open Operator

/-- With a column to go with them, the bounds decide what becomes of a range. -/
theorem addChecked_ofBetween {q : Query} {link : Link} {negated : Bool} {column : String}
    (named : Text.trim column ≠ "") (args : List Arg) :
    q.addChecked link (Predicate.ofBetween column negated args) =
      q.given (Predicate.bounds args) fun ends =>
        q.addPredicate link (.between (Text.trim column) negated ends.1 ends.2) := by
  unfold Predicate.ofBetween
  rw [checkName_of_written _ named]
  cases Predicate.bounds args <;> rfl

theorem reject_of_clean {q : Query} (clean : q.fault = none) (e : Fault) :
    q.reject e = { q with fault := some e } := by
  rw [reject, clean, Option.none_or]

/-- A range is added when its bounds are a pair of scalars, and holds them in their order. A pair with a sequence
among its bounds is a mismatch of types, be the other bound null or not, and anything else is taken for a null;
then nothing is added. The step for ranges does the same as the step that takes any operator. -/
theorem whereOp_range_bounds {q : Query} (clean : q.fault = none) {column : String}
    (named : Text.trim column ≠ "") {op : String} {negated : Bool}
    (spelled : SpellingOf op (form (.between negated))) (link : Link) (args : List Arg) :
    (∀ low high : Value, IsPair args (.value low) (.value high) → low.IsScalar → high.IsScalar →
      q.whereOp link column op args =
        { q with
          conditions := q.conditions ++ [⟨link, .between (Text.trim column) negated low high⟩]
          fault := none }) ∧
    (∀ low high, IsPair args low high → low.IsSequence ∨ high.IsSequence →
      q.whereOp link column op args = { q with fault := some (.typeMismatch .boundNotScalar) }) ∧
    ((¬ ∃ low high : Value, IsPair args (.value low) (.value high) ∧ low.IsScalar ∧ high.IsScalar) →
      (¬ ∃ low high, IsPair args low high ∧ (low.IsSequence ∨ high.IsSequence)) →
      q.whereOp link column op args = { q with fault := some .nullArgument }) ∧
    ∀ low high, args = [low, high] →
      q.whereBetween link negated column low high = q.whereOp link column op args := by
  have range : q.whereOp link column op args =
      q.addChecked link (Predicate.ofBetween column negated args) :=
    whereOp_of_spelled (o := .between negated) q link column nofun spelled args
  have refused : ∀ e, Predicate.bounds args = .error e →
      q.whereOp link column op args = { q with fault := some e } := by
    intro e failed
    rw [range, addChecked_ofBetween named, failed, given, reject_of_clean clean]
  refine ⟨fun low high pair lower upper => ?_, fun low high pair sequence => ?_,
    fun notScalars noSequence => ?_, ?_⟩
  · have found := Predicate.bounds_of_isScalar pair lower upper
    rw [range, addChecked_ofBetween named, found, given, addPredicate, ← clean]
  · exact refused _ (Predicate.bounds_of_isSequence pair sequence)
  · have null := ((Predicate.bounds_cases args).resolve_left notScalars).resolve_left noSequence
    exact refused _ null
  · rintro low high rfl
    rw [range]
    rfl

/-- A pair in a list is a range, a null beside a list is a mismatch, and a pair wrapped twice is no pair. -/
theorem whereOp_range_bounds_age :
    empty.whereOp .or " age" "not\tBetween" [.list [.value (.int 18), .value (.int 65)]] =
      { empty with conditions := [⟨.or, .between "age" true (.int 18) (.int 65)⟩] } ∧
    empty.whereOp .or " age" "not\tBetween" [.null, .list []] =
      { empty with fault := some (.typeMismatch .boundNotScalar) } ∧
    empty.whereOp .or " age" "not\tBetween" [.list [.list [.value (.int 18), .value (.int 65)]]] =
      { empty with fault := some .nullArgument } := by
  have trimmed : Text.trim " age" = "age" := by decide +kernel
  have named : Text.trim " age" ≠ "" := by
    rw [trimmed]
    decide
  have spelled : SpellingOf "not\tBetween" (form (.between true)) := by decide +kernel
  have range := whereOp_range_bounds (q := empty) rfl named spelled .or
  refine ⟨?_, ?_, ?_⟩
  · have scalar : ∀ n, (Value.int n).IsScalar := fun n => ⟨nofun, nofun⟩
    have added := (range _).1 (.int 18) (.int 65) (.list _ _) (scalar 18) (scalar 65)
    rwa [trimmed] at added
  · exact (range _).2.1 .null (.list []) (.apart _ _) (Or.inr (.list []))
  · refine (range _).2.2.1 ?_ ?_
    · rintro ⟨low, high, pair, -⟩
      cases pair
    · rintro ⟨low, high, pair, -⟩
      cases pair

end Query

end SqlSelect
