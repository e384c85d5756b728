import SqlSelect.Proofs.Alike
import SqlSelect.Proofs.Reading
set_option autoImplicit false

/-! Two readings of queries that are alike. Readings that give related meanings to pieces that are alike
give related meanings to queries that are alike. -/
namespace SqlSelect

/-- A relation between meanings that holds of pieces that are alike and survives putting pieces
together. -/
structure Parametric {M N : Type} (r : Likeness) (p : Reading M) (p' : Reading N)
    (R : M → N → Prop) : Prop where
  append : ∀ {a a' b b'}, R a a' → R b b' → R (p.append a b) (p'.append a' b')
  keyword : ∀ s, R (p.keyword s) (p'.keyword s)
  constant : ∀ holds, R (p.constant holds) (p'.constant holds)
  number : ∀ n, R (p.number n) (p'.number n)
  operator : ∀ s, R (p.operator s) (p'.operator s)
  column : ∀ {s t}, r.name s t → R (p.column s) (p'.column t)
  table : ∀ {s t}, r.name s t → R (p.table s) (p'.table t)
  identifier : ∀ {s t}, r.name s t → R (p.identifier s) (p'.identifier t)
  parameter : ∀ {v w}, r.value v w → R (p.parameter v) (p'.parameter w)
  template : ∀ {a b : RawSql}, a.Alike r b → R (p.template a) (p'.template b)
  rawColumn : ∀ {a b : RawSql}, a.Alike r b → R (p.rawColumn a) (p'.rawColumn b)
  guarded : ∀ fault {a a'}, R a a' → R (p.guarded fault a) (p'.guarded fault a')
  joined : ∀ kind {a a'}, R a a' → R (p.joined kind a) (p'.joined kind a')
  nested : ∀ {q q' : Query} {a a'}, q.ready = q'.ready → R a a' →
    R (p.nested q a) (p'.nested q' a')

namespace Parametric

theorem forall₂_map {α β M N : Type} {A : α → β → Prop} {R : M → N → Prop} {f : α → M} {g : β → N}
    {xs : List α} {ys : List β} (alike : List.Forall₂ A xs ys)
    (each : ∀ x ∈ xs, ∀ y, A x y → R (f x) (g y)) : List.Forall₂ R (xs.map f) (ys.map g) := by
  induction alike with
  | nil => exact .nil
  | cons head tail ih =>
    exact .cons (each _ List.mem_cons_self _ head)
      (ih fun x inside => each x (List.mem_cons_of_mem _ inside))

variable {M N : Type} {r : Likeness} {p : Reading M} {p' : Reading N} {R : M → N → Prop}

theorem conditions {conditions conditions' : List Condition}
    (alike : List.Forall₂ (Condition.Alike r) conditions conditions')
    (inner : ∀ c ∈ conditions, ∀ t, c.predicate.Alike r t → R (c.predicate.read p) (t.read p')) :
    List.Forall₂ (fun x y => x.1 = y.1 ∧ R x.2 y.2)
      (conditions.map fun c => (c.link, c.predicate.read p))
      (conditions'.map fun c => (c.link, c.predicate.read p')) := by
  refine forall₂_map alike fun c inside c' same => ?_
  cases same with
  | intro link predicate => exact ⟨rfl, inner _ inside _ predicate⟩

variable (h : Parametric r p p' R)

include h

theorem between {a b : M} {a' b' : N} (s : String) (first : R a a') (second : R b b') :
    R (p.between a s b) (p'.between a' s b') :=
  h.append (h.append first (h.keyword s)) second

theorem led {a : M} {a' : N} (s : String) (inner : R a a') :
    R (p.append (p.keyword s) a) (p'.append (p'.keyword s) a') :=
  h.append (h.keyword s) inner

theorem separated (s : String) {ms : List M} {ns : List N} (each : List.Forall₂ R ms ns) :
    R (p.separated s ms) (p'.separated s ns) := by
  induction each with
  | nil => exact h.keyword ""
  | cons head tail ih =>
    cases tail with
    | nil => exact head
    | cons next more => exact h.between s head ih

theorem linked {ms : List (Link × M)} {ns : List (Link × N)}
    (each : List.Forall₂ (fun x y => x.1 = y.1 ∧ R x.2 y.2) ms ns) :
    R (p.linked ms) (p'.linked ns) := by
  have rest : ∀ {ms : List (Link × M)} {ns : List (Link × N)},
      List.Forall₂ (fun x y => x.1 = y.1 ∧ R x.2 y.2) ms ns →
      R (Pieces.linked.linkedRest p.toPieces ms) (Pieces.linked.linkedRest p'.toPieces ns) := by
    intro ms ns each
    induction each with
    | nil => exact h.keyword ""
    | cons head tail ih =>
      obtain ⟨sameLink, related⟩ := head
      rw [Pieces.linked.linkedRest, Pieces.linked.linkedRest, sameLink]
      exact h.append (h.led _ related) ih
  cases each with
  | nil => exact h.keyword ""
  | cons head tail => exact h.append head.2 (rest tail)

theorem labelled {s t : String} {query : Option M} {query' : Option N} (label : r.name s t)
    (inner : Option.Rel R query query') : R (p.labelled s query) (p'.labelled t query') := by
  cases inner with
  | none => exact h.guarded _ (h.keyword "")
  | some body =>
    rw [Pieces.labelled, Pieces.labelled, r.isEmpty_eq label]
    exact h.guarded _ (h.between _ (h.led _ body) (h.identifier label))

theorem join {j j' : Join} (alike : j.Alike r j') : R (p.join j) (p'.join j') := by
  have table := h.between " " (h.keyword j.kind.keyword) (h.table alike.table)
  have left := h.between " ON " table (h.identifier alike.left)
  have compared := h.between " " left (h.operator j.op)
  have all := h.joined j.kind (h.between " " compared (h.identifier alike.right))
  rw [Pieces.join, Pieces.join, ← alike.kind, ← alike.op]
  exact all

theorem sortKey {k k' : SortKey} (alike : k.Alike r k') : R (p.sortKey k) (p'.sortKey k') := by
  cases alike with
  | column direction name => exact h.between " " (h.identifier name) (h.keyword direction.keyword)
  | raw sql => exact h.template sql

theorem membership {s t : String} {vs ws : List Value} (negated : Bool) (column : r.name s t)
    (members : List.Forall₂ r.value vs ws) :
    R (p.membership s negated vs) (p'.membership t negated ws) := by
  cases members with
  | nil => exact h.constant negated
  | cons head tail =>
    have list := forall₂_map (List.Forall₂.cons head tail) fun v _ w alike => h.parameter alike
    exact h.append (h.between _ (h.identifier column) (h.separated ", " list)) (h.keyword ")")

theorem columnsClause {ms : List M} {ns : List N} (each : List.Forall₂ R ms ns) :
    R (p.columnsClause ms) (p'.columnsClause ns) := by
  cases each with
  | nil => exact h.keyword "*"
  | cons head tail => exact h.separated ", " (.cons head tail)

theorem joinsClause {joins joins' : List Join} (alike : List.Forall₂ (Join.Alike r) joins joins') :
    R (p.joinsClause joins) (p'.joinsClause joins') :=
  h.separated "" (forall₂_map alike fun _ _ _ same => h.led " " (h.join same))

theorem whereClause {ms : List (Link × M)} {ns : List (Link × N)}
    (each : List.Forall₂ (fun x y => x.1 = y.1 ∧ R x.2 y.2) ms ns) :
    R (p.whereClause ms) (p'.whereClause ns) := by
  cases each with
  | nil => exact h.keyword ""
  | cons head tail => exact h.led " WHERE " (h.linked (.cons head tail))

theorem orderClause {order order' : List SortKey}
    (alike : List.Forall₂ (SortKey.Alike r) order order') :
    R (p.orderClause order) (p'.orderClause order') := by
  cases alike with
  | nil => exact h.keyword ""
  | cons head tail =>
    have list := forall₂_map (List.Forall₂.cons head tail) fun _ _ _ same => h.sortKey same
    exact h.led " ORDER BY " (h.separated ", " list)

theorem numberClause (s : String) (n : Option Nat) :
    R (p.numberClause s n) (p'.numberClause s n) := by
  cases n with
  | none => exact h.keyword ""
  | some n => exact h.led s (h.number n)

theorem subquery {query query' : Option Query} (alike : Option.Rel (Query.Alike r) query query')
    (inner : ∀ q ∈ query, ∀ q', q.Alike r q' → R (q.read p) (q'.read p')) :
    Option.Rel R (readSubquery p query) (readSubquery p' query') := by
  cases alike with
  | none => exact .none
  | some same => exact .some (h.nested same.ready_eq (inner _ rfl _ same))

theorem source {source source' : Option Source}
    (alike : Option.Rel (Source.Alike r) source source')
    (inner : ∀ s ∈ source, ∀ s', s.Alike r s' → R (s.read p) (s'.read p')) :
    R (readSource p source) (readSource p' source') := by
  cases alike with
  | none => exact h.guarded _ (h.keyword "")
  | some same => exact inner _ rfl _ same

/-- Queries that are alike have related meanings. -/
theorem read {q q' : Query} (alike : q.Alike r q') : R (q.read p) (q'.read p') := by
  refine Query.nested_induction
    (Q := fun q => ∀ q', q.Alike r q' → R (q.read p) (q'.read p'))
    (C := fun c => ∀ c', c.Alike r c' → R (c.read p) (c'.read p'))
    (S := fun s => ∀ s', s.Alike r s' → R (s.read p) (s'.read p'))
    (P := fun t => ∀ t', t.Alike r t' → R (t.read p) (t'.read p'))
    ?query ?columnName ?columnRaw ?columnSubquery ?sourceTable ?sourceRaw ?sourceSubquery
    ?comparison ?between ?membership ?nullTest ?raw ?group ?subquery q q' alike
  case query =>
    intro q columnsInner sourceInner conditionsInner q' alike
    cases alike with
    | intro _ _ columns source joins conditions order limit offset =>
      have list := h.columnsClause (forall₂_map columns columnsInner)
      have numbers := h.append (h.numberClause " LIMIT " q.limit) (h.numberClause " OFFSET " q.offset)
      have fromOrder := h.append (h.orderClause order) numbers
      have fromWhere :=
        h.append (h.whereClause (Parametric.conditions conditions conditionsInner)) fromOrder
      have fromJoins := h.append (h.joinsClause joins) fromWhere
      have fromSource := h.append (h.source source sourceInner) fromJoins
      rw [Query.read_eq, Query.read_eq, Query.readAfterColumns, Query.readAfterColumns, ← limit,
        ← offset]
      exact h.led "SELECT " (h.append list (h.led " FROM " fromSource))
  case columnName =>
    intro s c' alike
    cases alike with
    | name name => exact h.column name
  case columnRaw =>
    intro a c' alike
    cases alike with
    | raw sql => exact h.rawColumn sql
  case columnSubquery =>
    intro s query inner c' alike
    cases alike with
    | subquery label query => exact h.labelled label (h.subquery query inner)
  case sourceTable =>
    intro s s' alike
    cases alike with
    | table name =>
      rw [Source.read, Source.read, r.isBlank_eq name]
      exact h.guarded _ (h.table name)
  case sourceRaw =>
    intro a s' alike
    cases alike with
    | raw sql =>
      rw [Source.read, Source.read, sql.text]
      exact h.guarded _ (h.template sql)
  case sourceSubquery =>
    intro s query inner s' alike
    cases alike with
    | subquery label query => exact h.labelled label (h.subquery query inner)
  case comparison =>
    intro s op v t' alike
    cases alike with
    | comparison op column value =>
      exact h.between " " (h.between " " (h.identifier column) (h.operator op)) (h.parameter value)
  case between =>
    intro s negated low high t' alike
    cases alike with
    | between negated column lower upper =>
      exact h.between " AND " (h.between _ (h.identifier column) (h.parameter lower))
        (h.parameter upper)
  case membership =>
    intro s negated members t' alike
    cases alike with
    | membership negated column members => exact h.membership negated column members
  case nullTest =>
    intro s negated t' alike
    cases alike with
    | nullTest negated column => exact h.append (h.identifier column) (h.keyword _)
  case raw =>
    intro a t' alike
    cases alike with
    | raw sql => exact h.template sql
  case group =>
    intro conditions inner t' alike
    cases alike with
    | group same =>
      rw [Predicate.read, Predicate.read, readConditions_eq_map, readConditions_eq_map]
      exact h.append (h.led "(" (h.linked (Parametric.conditions same inner))) (h.keyword ")")
  case subquery =>
    intro s op query inner t' alike
    cases alike with
    | subquery op column query =>
      have body := h.nested query.ready_eq (inner _ query)
      rw [Predicate.read, Predicate.read, r.isEmpty_eq column]
      refine h.append (h.between " (" ?_ body) (h.keyword ")")
      split
      · exact h.operator op
      · exact h.between " " (h.identifier column) (h.operator op)

end Parametric

end SqlSelect
