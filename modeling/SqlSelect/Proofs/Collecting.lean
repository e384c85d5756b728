import SqlSelect.Proofs.Reading
set_option autoImplicit false

/-! Readings that collect. Where the words of the language and the names hold nothing, what a query holds
is what its values, templates, guards, joins and subqueries hold, in the order of the text. -/
namespace SqlSelect

/-- Putting pieces together appends what they hold, and words and names hold nothing. -/
structure Pieces.Collects {M α : Type} (p : Pieces M) (held : M → List α) : Prop where
  append : ∀ a b, held (p.append a b) = held a ++ held b
  keyword : ∀ s, held (p.keyword s) = []
  constant : ∀ holds, held (p.constant holds) = []
  number : ∀ n, held (p.number n) = []
  operator : ∀ s, held (p.operator s) = []
  identifier : ∀ s, held (p.identifier s) = []

namespace Pieces.Collects

section Clauses

variable {M α : Type} {p : Pieces M} {held : M → List α} (h : p.Collects held)

include h

theorem between (a : M) (s : String) (b : M) : held (p.between a s b) = held a ++ held b := by
  rw [Pieces.between, h.append, h.append, h.keyword, List.append_nil]

theorem led (s : String) (a : M) : held (p.append (p.keyword s) a) = held a := by
  rw [h.append, h.keyword, List.nil_append]

theorem trailed (a : M) (s : String) : held (p.append a (p.keyword s)) = held a := by
  rw [h.append, h.keyword, List.append_nil]

theorem separated (s : String) (items : List M) :
    held (p.separated s items) = items.flatMap held := by
  induction items with
  | nil => exact h.keyword ""
  | cons m items ih =>
    cases items with
    | nil => exact (List.append_nil _).symm
    | cons next items =>
      rw [Pieces.separated, h.between, ih]
      · rfl
      · simp

theorem linked (items : List (Link × M)) :
    held (p.linked items) = items.flatMap fun item => held item.2 := by
  have rest : ∀ items : List (Link × M), held (Pieces.linked.linkedRest p items) =
      items.flatMap fun item => held item.2 := by
    intro items
    induction items with
    | nil => exact h.keyword ""
    | cons item items ih =>
      obtain ⟨link, m⟩ := item
      rw [Pieces.linked.linkedRest, h.append, h.led, ih, List.flatMap_cons]
  cases items with
  | nil => exact h.keyword ""
  | cons item items =>
    obtain ⟨link, m⟩ := item
    rw [Pieces.linked, h.append, rest, List.flatMap_cons]

theorem bracketed (m : M) : held (p.bracketed m) = held m := by
  rw [Pieces.bracketed, h.trailed, h.led]

theorem membership (column : String) (negated : Bool) (members : List Value) :
    held (p.membership column negated members) = members.flatMap fun v => held (p.parameter v) := by
  cases members with
  | nil => exact h.constant negated
  | cons v members =>
    rw [Pieces.membership, if_neg (by simp), h.trailed, h.between, h.identifier, h.separated,
      List.flatMap_map, List.nil_append]

theorem columnsClause (columns : List M) : held (p.columnsClause columns) = columns.flatMap held := by
  cases columns with
  | nil => exact h.keyword "*"
  | cons m columns => exact h.separated ", " (m :: columns)

theorem joinsClause (joins : List Join) :
    held (p.joinsClause joins) = joins.flatMap fun j => held (p.join j) := by
  rw [Pieces.joinsClause, h.separated, List.flatMap_map]
  simp only [h.led]

theorem whereClause (conditions : List (Link × M)) :
    held (p.whereClause conditions) = conditions.flatMap fun item => held item.2 := by
  cases conditions with
  | nil => exact h.keyword ""
  | cons item conditions => rw [Pieces.whereClause, if_neg (by simp), h.led, h.linked]

theorem orderClause (order : List SortKey) :
    held (p.orderClause order) = order.flatMap fun k => held (p.sortKey k) := by
  cases order with
  | nil => exact h.keyword ""
  | cons k order =>
    rw [Pieces.orderClause, if_neg (by simp), h.led, h.separated, List.flatMap_map]

theorem numberClause (s : String) (n : Option Nat) : held (p.numberClause s n) = [] := by
  cases n with
  | none => exact h.keyword ""
  | some n => rw [Pieces.numberClause, h.led, h.number]

end Clauses

section Queries

variable {M α : Type} {p : Reading M} {held : M → List α} (h : p.Collects held)

include h

theorem query (q : Query) : held (q.read p) =
    (q.columns.flatMap fun c => held (c.read p)) ++ held (readSource p q.source) ++
      (q.joins.flatMap fun j => held (p.join j)) ++
      (q.conditions.flatMap fun c => held (c.predicate.read p)) ++
      q.order.flatMap fun k => held (p.sortKey k) := by
  rw [Query.read_eq, h.led, h.append, h.columnsClause, Query.readAfterColumns, Pieces.afterColumns,
    h.led, h.append, h.append, h.append, h.append, h.append, h.joinsClause, h.whereClause,
    h.orderClause, h.numberClause, h.numberClause, List.flatMap_map, List.flatMap_map]
  simp only [List.append_assoc, List.append_nil]

theorem comparison (column op : String) (v : Value) :
    held ((Predicate.comparison column op v).read p) = held (p.parameter v) := by
  rw [Predicate.read, h.between, h.between, h.identifier, h.operator]
  rfl

theorem range (column : String) (negated : Bool) (low high : Value) :
    held ((Predicate.between column negated low high).read p) =
      held (p.parameter low) ++ held (p.parameter high) := by
  rw [Predicate.read, h.between, h.between, h.identifier]
  rfl

theorem nullTest (column : String) (negated : Bool) :
    held ((Predicate.nullTest column negated).read p) = [] := by
  rw [Predicate.read, h.trailed, h.identifier]

theorem group (conditions : List Condition) : held ((Predicate.group conditions).read p) =
    conditions.flatMap fun c => held (c.predicate.read p) := by
  rw [Predicate.read, readConditions_eq_map, h.bracketed, h.linked, List.flatMap_map]

theorem subquery (column op : String) (q : Query) :
    held ((Predicate.subquery column op q).read p) = held (p.nested q (q.read p)) := by
  rw [Predicate.read, h.trailed, h.between]
  split
  · rw [h.operator, List.nil_append]
  · rw [h.between, h.identifier, h.operator]
    rfl

end Queries

end Pieces.Collects

end SqlSelect
