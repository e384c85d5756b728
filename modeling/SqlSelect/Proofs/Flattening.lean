import Mathlib.Data.List.Basic
import SqlSelect.Arg.Basic
set_option autoImplicit false

/-! Which lists of arguments can be flattened into members, what comes of it, and for which of its parts a list
is refused. Lists and array values may stand for each other at every place. -/
namespace SqlSelect

/-- Neither null nor an array. -/
def Value.IsScalar (v : Value) : Prop :=
  v ≠ .null ∧ ∀ items, v ≠ .array items

theorem exists_of_bind_ok {α β : Type} {x : Except Fault α} {f : α → Except Fault β} {b : β}
    (ok : (x >>= f) = .ok b) : ∃ a, x = .ok a ∧ f a = .ok b := by
  cases x with
  | error e => cases ok
  | ok a => exact ⟨a, rfl, ok⟩

theorem mapM_eq_error_iff {α β ε : Type} {f : α → Except ε β} {as : List α} {e : ε} :
    as.mapM f = .error e ↔
      ∃ before a after, as = before ++ a :: after ∧ (∃ bs, before.mapM f = .ok bs) ∧ f a = .error e := by
  constructor
  · intro refused
    induction as with
    | nil => cases refused
    | cons a as ih =>
      rw [List.mapM_cons] at refused
      cases first : f a with
      | error e' =>
        rw [first] at refused
        cases refused
        exact ⟨[], a, as, rfl, ⟨[], rfl⟩, first⟩
      | ok b =>
        rw [first] at refused
        cases others : as.mapM f with
        | error e' =>
          rw [others] at refused
          cases refused
          obtain ⟨before, x, after, split, ⟨bs, passed⟩, last⟩ := ih others
          refine ⟨a :: before, x, after, by rw [split]; rfl, ⟨b :: bs, ?_⟩, last⟩
          rw [List.mapM_cons, first, passed]
          rfl
        | ok bs =>
          rw [others] at refused
          cases refused
  · rintro ⟨before, a, after, rfl, ⟨bs, passed⟩, last⟩
    rw [List.mapM_append, passed, List.mapM_cons, last]
    rfl

namespace Arg

/-- What an argument puts up for membership: a sequence its items, a scalar itself. -/
def entries : Arg → List Arg
  | list items => items
  | value (.array values) => values.map value
  | value v => [value v]

/-- What is not allowed as a member. A sequence among the entries is one inside of a sequence. -/
inductive Refused : Arg → Fault → Prop where
  | null : Refused Arg.null .nullArgument
  | list (items : List Arg) : Refused (.list items) .nestedList
  | array (values : List Value) : Refused (.value (.array values)) .nestedList

theorem member_eq_ok_iff {arg : Arg} {v : Value} : arg.member = .ok v ↔ arg = value v ∧ v.IsScalar := by
  constructor
  · intro ok
    unfold member at ok
    split at ok <;> cases ok
    rename_i notNull notArray
    exact ⟨rfl, notNull, notArray⟩
  · rintro ⟨rfl, notNull, notArray⟩
    cases v with
    | null => exact absurd rfl notNull
    | array items => exact absurd rfl (notArray items)
    | bool | int | float | text | blob => rfl

theorem member_eq_error_iff {arg : Arg} {e : Fault} : arg.member = .error e ↔ arg.Refused e := by
  constructor
  · intro refused
    unfold member at refused
    split at refused <;> cases refused
    · exact .null
    · exact .array _
    · exact .list _
  · intro refused
    cases refused <;> rfl

theorem members_eq_mapM (arg : Arg) : arg.members = arg.entries.mapM member := by
  cases arg with
  | list items => rfl
  | value v => cases v <;> rfl

theorem flatten_eq_mapM (args : List Arg) : flatten args = (args.flatMap entries).mapM member := by
  induction args with
  | nil => rfl
  | cons arg args ih =>
    rw [List.flatMap_cons, List.mapM_append, ← members_eq_mapM, ← ih, flatten, flatten, List.mapM_cons]
    cases arg.members with
    | error e => rfl
    | ok first => cases args.mapM members <;> rfl

theorem mapM_member_eq_ok_iff {entries : List Arg} {values : List Value} :
    entries.mapM member = .ok values ↔ entries = values.map value ∧ ∀ v ∈ values, v.IsScalar := by
  induction entries generalizing values with
  | nil =>
    constructor
    · intro ok
      cases ok
      exact ⟨rfl, fun _ absent => nomatch absent⟩
    · rintro ⟨none, -⟩
      rw [List.map_eq_nil_iff.1 none.symm]
      rfl
  | cons entry entries ih =>
    rw [List.mapM_cons]
    constructor
    · intro ok
      obtain ⟨v, first, rest⟩ := exists_of_bind_ok ok
      obtain ⟨others, passed, last⟩ := exists_of_bind_ok rest
      cases last
      obtain ⟨rfl, scalar⟩ := member_eq_ok_iff.1 first
      obtain ⟨rfl, scalars⟩ := ih.1 passed
      exact ⟨rfl, List.forall_mem_cons.2 ⟨scalar, scalars⟩⟩
    · rintro ⟨split, each⟩
      cases values with
      | nil => cases split
      | cons v values =>
        obtain ⟨scalar, scalars⟩ := List.forall_mem_cons.1 each
        obtain ⟨front, others⟩ := List.cons.inj split
        rw [member_eq_ok_iff.2 ⟨front, scalar⟩, ih.2 ⟨others, scalars⟩]
        rfl

theorem entries_of_isScalar {v : Value} (scalar : v.IsScalar) : (value v).entries = [value v] := by
  cases v with
  | array items => exact absurd rfl (scalar.2 items)
  | null | bool | int | float | text | blob => rfl

theorem flatMap_entries_of_isScalar {values : List Value} (scalars : ∀ v ∈ values, v.IsScalar) :
    (values.map value).flatMap entries = values.map value := by
  rw [List.flatMap_map, ← List.flatMap_pure_eq_map]
  exact List.flatMap_congr fun v inside => entries_of_isScalar (scalars v inside)

theorem member_toValue (arg : Arg) : (value arg.toValue).member = arg.member := by
  cases arg <;> rfl

theorem members_toValue (arg : Arg) : (value arg.toValue).members = arg.members := by
  cases arg with
  | value v => rfl
  | list items =>
    rw [members_eq_mapM, members_eq_mapM, toValue, toValues_eq_map, entries, entries, List.map_map,
      List.mapM_map]
    exact congrArg (fun check => items.mapM check) (funext member_toValue)

/-- A list is flattened into the entries of its arguments when they are scalars other than null, and refused for
the leftmost one that is not. A list put behind it is looked at afterwards; arguments may be collapsed into one
value each; and members are not changed by flattening them again. -/
theorem flatten_entries (args more : List Arg) :
    (∀ values, flatten args = .ok values ↔
      args.flatMap entries = values.map value ∧ ∀ v ∈ values, v.IsScalar) ∧
    (∀ e, flatten args = .error e ↔ ∃ (before : List Value) (entry : Arg) (after : List Arg),
      args.flatMap entries = before.map value ++ entry :: after ∧ (∀ v ∈ before, v.IsScalar) ∧
        entry.Refused e) ∧
    flatten (args ++ more) = (do
      let values ← flatten args
      let others ← flatten more
      return values ++ others) ∧
    flatten (args.map fun arg => value arg.toValue) = flatten args ∧
    (flatten args >>= fun values => flatten (values.map value)) = flatten args := by
  refine ⟨fun values => ?_, fun e => ?_, ?_, ?_, ?_⟩
  · rw [flatten_eq_mapM, mapM_member_eq_ok_iff]
  · rw [flatten_eq_mapM, mapM_eq_error_iff]
    constructor
    · rintro ⟨front, entry, after, split, ⟨before, passed⟩, refused⟩
      obtain ⟨rfl, scalars⟩ := mapM_member_eq_ok_iff.1 passed
      exact ⟨before, entry, after, split, scalars, member_eq_error_iff.1 refused⟩
    · rintro ⟨before, entry, after, split, scalars, refused⟩
      exact ⟨before.map value, entry, after, split, ⟨before, mapM_member_eq_ok_iff.2 ⟨rfl, scalars⟩⟩,
        member_eq_error_iff.2 refused⟩
  · rw [flatten_eq_mapM, flatten_eq_mapM, flatten_eq_mapM, List.flatMap_append, List.mapM_append]
  · rw [flatten, List.mapM_map, flatten]
    exact congrArg (fun check => List.flatten <$> args.mapM check) (funext members_toValue)
  · cases flattened : flatten args with
    | error e => rfl
    | ok values =>
      rw [flatten_eq_mapM] at flattened
      obtain ⟨-, scalars⟩ := mapM_member_eq_ok_iff.1 flattened
      change flatten (values.map value) = .ok values
      rw [flatten_eq_mapM, flatMap_entries_of_isScalar scalars]
      exact mapM_member_eq_ok_iff.2 ⟨rfl, scalars⟩

example : flatten [.list [.value (.int 1), .null], .list [.list []]] = .error .nullArgument := rfl

end Arg

end SqlSelect
