import Mathlib.Data.List.Forall2
import SqlSelect.Arg.OfJson
import SqlSelect.Proofs.Flattening
set_option autoImplicit false

/-! Arguments made from JSON values are copies of them, node by node. Where a JSON value cannot be copied, the
first node in document order that stands in the way is the one that is reported. -/
namespace SqlSelect

namespace Json

/-- By induction over the arrays of a JSON value; what is in an object does not matter. -/
theorem array_induction {P : Json → Prop} (single : ∀ j : Json, (∀ items, j ≠ .array items) → P j)
    (array : ∀ items : List Json, (∀ j ∈ items, P j) → P (.array items)) : ∀ j, P j := by
  refine @Json.rec P (fun items => ∀ j ∈ items, P j) (fun _ => True) (fun _ => True) ?null ?bool ?signed
    ?unsigned ?float ?string array ?object ?noItem ?moreItems trivial (fun _ _ _ _ => trivial)
    (fun _ _ _ => trivial)
  case null => exact single _ (fun _ same => by cases same)
  case bool => exact fun _ => single _ (fun _ same => by cases same)
  case signed => exact fun _ => single _ (fun _ same => by cases same)
  case unsigned => exact fun _ => single _ (fun _ same => by cases same)
  case float => exact fun _ => single _ (fun _ same => by cases same)
  case string => exact fun _ => single _ (fun _ same => by cases same)
  case object => exact fun _ _ => single _ (fun _ same => by cases same)
  case noItem => exact fun _ absent => nomatch absent
  case moreItems => exact fun _ _ head tail => List.forall_mem_cons.2 ⟨head, tail⟩

mutual

/-- The value and all that its arrays hold, at every depth, in document order. An object is not entered. -/
def nodes : Json → List Json
  | .array items => .array items :: nodesOf items
  | j => [j]

def nodesOf : List Json → List Json
  | [] => []
  | j :: rest => nodes j ++ nodesOf rest

end

theorem nodes_single {j : Json} (single : ∀ items, j ≠ .array items) : j.nodes = [j] := by
  cases j with
  | array items => exact absurd rfl (single items)
  | null | bool | signed | unsigned | float | string | object => rfl

/-- A copy of a JSON value: a leaf for each scalar, and for each array the list of the copies of its items. -/
inductive Copied {α : Type} (leaf : Value → α) (list : List α → α) : Json → α → Prop where
  | leaf {j : Json} {v : Value} (denotes : j.Denotes v) : Copied leaf list j (leaf v)
  | array {items : List Json} {copies : List α} (each : List.Forall₂ (Copied leaf list) items copies) :
    Copied leaf list (.array items) (list copies)

end Json

namespace Arg

open Json

section Copies

variable {α : Type} {copy : Arg → α} {leaf : Value → α} {list : List α → α}

theorem map_eq_ok_iff {β : Type} {f : β → α} {x : Except Fault β} {a : α} :
    f <$> x = .ok a ↔ ∃ b, x = .ok b ∧ f b = a := by
  constructor
  · intro ok
    obtain ⟨b, given, made⟩ := exists_of_bind_ok ok
    exact ⟨b, given, Except.ok.inj made⟩
  · rintro ⟨b, rfl, rfl⟩
    rfl

theorem ofJsons_cons_eq_ok_iff {j : Json} {items : List Json} {args : List Arg} :
    ofJsons (j :: items) = .ok args ↔
      ∃ first rest, args = first :: rest ∧ ofJson j = .ok first ∧ ofJsons items = .ok rest := by
  rw [ofJsons]
  constructor
  · intro ok
    obtain ⟨first, converted, ok⟩ := exists_of_bind_ok ok
    obtain ⟨rest, others, ok⟩ := exists_of_bind_ok ok
    cases ok
    exact ⟨first, rest, rfl, converted, others⟩
  · rintro ⟨first, rest, rfl, converted, others⟩
    rw [converted, others]
    rfl

theorem map_ofJsons_eq_ok_iff {items : List Json} {copies : List α}
    (each : ∀ j ∈ items, ∀ b, copy <$> ofJson j = .ok b ↔ Copied leaf list j b) :
    List.map copy <$> ofJsons items = .ok copies ↔ List.Forall₂ (Copied leaf list) items copies := by
  induction items generalizing copies with
  | nil =>
    rw [List.forall₂_nil_left_iff]
    constructor
    · intro ok
      cases ok
      rfl
    · rintro rfl
      rfl
  | cons j items ih =>
    obtain ⟨head, tail⟩ := List.forall_mem_cons.1 each
    rw [map_eq_ok_iff]
    constructor
    · rintro ⟨args, ok, rfl⟩
      obtain ⟨first, rest, rfl, converted, others⟩ := ofJsons_cons_eq_ok_iff.1 ok
      exact .cons ((head _).1 (map_eq_ok_iff.2 ⟨first, converted, rfl⟩))
        ((ih tail).1 (map_eq_ok_iff.2 ⟨rest, others, rfl⟩))
    · intro copied
      cases copied with
      | cons first rest =>
        obtain ⟨arg, converted, rfl⟩ := map_eq_ok_iff.1 ((head _).2 first)
        obtain ⟨args, others, rfl⟩ := map_eq_ok_iff.1 ((ih tail).2 rest)
        exact ⟨arg :: args, ofJsons_cons_eq_ok_iff.2 ⟨arg, args, rfl, converted, others⟩, rfl⟩

/-- Turned into anything that has leaves and lists, the argument of a JSON value is a copy of it, and only a JSON
value that has a copy makes an argument. -/
theorem map_ofJson_eq_ok_iff (copyValue : ∀ v, copy (.value v) = leaf v)
    (copyList : ∀ args, copy (.list args) = list (args.map copy)) (j : Json) (b : α) :
    copy <$> ofJson j = .ok b ↔ Copied leaf list j b := by
  induction j using array_induction generalizing b with
  | single j single =>
    constructor
    · intro ok
      cases found : j.mismatch? with
      | some m =>
        rw [ofJson_of_mismatch found] at ok
        cases ok
      | none =>
        obtain ⟨v, denotes⟩ := exists_denotes single found
        rw [ofJson_of_denotes denotes] at ok
        cases ok
        exact copyValue v ▸ .leaf denotes
    · intro copied
      cases copied with
      | leaf denotes =>
        rw [ofJson_of_denotes denotes, ← copyValue]
        rfl
      | array each => exact absurd rfl (single _)
  | array items each =>
    rw [ofJson, map_eq_ok_iff]
    constructor
    · rintro ⟨arg, ok, rfl⟩
      obtain ⟨args, converted, rfl⟩ := map_eq_ok_iff.1 ok
      rw [copyList]
      exact .array ((map_ofJsons_eq_ok_iff each).1 (map_eq_ok_iff.2 ⟨args, converted, rfl⟩))
    · intro copied
      cases copied with
      | leaf denotes => cases denotes
      | array copies =>
        obtain ⟨args, converted, rfl⟩ := map_eq_ok_iff.1 ((map_ofJsons_eq_ok_iff each).2 copies)
        exact ⟨.list args, map_eq_ok_iff.2 ⟨args, converted, rfl⟩, copyList args⟩

end Copies

/-- A conversion that goes through where nothing was found, and fails for what was found otherwise. -/
inductive Reports {α : Type} : Option Mismatch → Except Fault α → Prop where
  | clean (a : α) : Reports none (.ok a)
  | refused (m : Mismatch) : Reports (some m) (.error (.typeMismatch m))

section Reports

variable {α β : Type} {found later : Option Mismatch} {x : Except Fault α}

theorem Reports.bind {f : α → Except Fault β} (first : Reports found x) (rest : ∀ a, Reports later (f a)) :
    Reports (found.or later) (x >>= f) := by
  cases first with
  | clean a => exact rest a
  | refused m => exact .refused m

theorem Reports.map (f : α → β) (reports : Reports found x) : Reports found (f <$> x) := by
  cases reports with
  | clean a => exact .clean (f a)
  | refused m => exact .refused m

theorem Reports.isOk_iff (reports : Reports found x) : (∃ a, x = .ok a) ↔ found = none := by
  cases reports with
  | clean a => exact ⟨fun _ => rfl, fun _ => ⟨a, rfl⟩⟩
  | refused m => simp

theorem Reports.eq_error_iff (reports : Reports found x) {e : Fault} :
    x = .error e ↔ ∃ m, found = some m ∧ e = .typeMismatch m := by
  cases reports with
  | clean a => simp
  | refused m => simp [eq_comm]

end Reports

theorem reports_ofJsons {items : List Json}
    (each : ∀ j ∈ items, Reports (j.nodes.findSome? mismatch?) (ofJson j)) :
    Reports ((nodesOf items).findSome? mismatch?) (ofJsons items) := by
  induction items with
  | nil => exact .clean []
  | cons j items ih =>
    obtain ⟨head, tail⟩ := List.forall_mem_cons.1 each
    rw [nodesOf, List.findSome?_append, ofJsons]
    exact head.bind fun arg => (ih tail).map (arg :: ·)

/-- The conversion fails for the first node in document order that cannot be bound, and goes through when there
is none. -/
theorem reports_ofJson (j : Json) : Reports (j.nodes.findSome? mismatch?) (ofJson j) := by
  induction j using array_induction with
  | single j single =>
    rw [nodes_single single, List.findSome?_singleton]
    cases found : j.mismatch? with
    | some m =>
      rw [ofJson_of_mismatch found]
      exact .refused m
    | none =>
      obtain ⟨v, denotes⟩ := exists_denotes single found
      rw [ofJson_of_denotes denotes]
      exact .clean (value v)
  | array items each =>
    rw [ofJson, nodes, List.findSome?_cons_of_isNone rfl]
    exact (reports_ofJsons each).map list

/-- A JSON value becomes an argument when nothing in it is an object or an integer above the signed range. The
argument is a copy of it with lists for its arrays, and collapses into a copy with arrays for them. Otherwise the
leftmost node in the way is reported, an integer with its digits. -/
theorem ofJson_copies (j : Json) :
    ((∃ arg, ofJson j = .ok arg) ↔ ∀ node ∈ j.nodes, (∀ members, node ≠ .object members) ∧
      ∀ n, node = .unsigned n → n.toNat ≤ Int64.maxValue.toInt) ∧
    (∀ arg, ofJson j = .ok arg ↔ j.Copied value list arg) ∧
    (∀ v, toValue <$> ofJson j = .ok v ↔ j.Copied id .array v) ∧
    ∀ e, ofJson j = .error e ↔ ∃ before node after m, j.nodes = before ++ node :: after ∧
      (∀ earlier ∈ before, earlier.mismatch? = none) ∧ node.mismatch? = some m ∧ e = .typeMismatch m ∧
      ∀ n, node = .unsigned n →
        e.message = "type mismatch: integer " ++ toString n.toNat ++ " exceeds i64" := by
  refine ⟨?_, fun arg => ?_, fun v => ?_, fun e => ?_⟩
  · rw [(reports_ofJson j).isOk_iff, List.findSome?_eq_none_iff]
    exact forall₂_congr fun node _ => Json.mismatch?_eq_none_iff
  · have kept : id <$> ofJson j = .ok arg ↔ j.Copied value list arg :=
      map_ofJson_eq_ok_iff (fun _ => rfl) (fun args => by rw [List.map_id, id]) j arg
    rwa [id_map] at kept
  · exact map_ofJson_eq_ok_iff (fun _ => rfl) (fun args => by rw [toValue, toValues_eq_map]) j v
  · rw [(reports_ofJson j).eq_error_iff]
    constructor
    · rintro ⟨m, first, rfl⟩
      obtain ⟨before, node, after, split, found, earlier⟩ := List.findSome?_eq_some_iff.1 first
      refine ⟨before, node, after, m, split, earlier, found, rfl, ?_⟩
      rintro n rfl
      exact message_of_mismatch found
    · rintro ⟨before, node, after, m, split, earlier, found, rfl, -⟩
      exact ⟨m, List.findSome?_eq_some_iff.2 ⟨before, node, after, split, found, earlier⟩, rfl⟩

example : ofJson (.array [.null, .array [.signed 1, .unsigned 0xFFFFFFFFFFFFFFFF], .object []]) =
    .error (.typeMismatch (.integerTooLarge 0xFFFFFFFFFFFFFFFF)) := rfl

end Arg

end SqlSelect
