import Mathlib.Data.List.Forall2
import SqlSelect.Proofs.CallerText
set_option autoImplicit false

/-! Queries that differ at most in their names and values. What else they hold is the same at every
depth, but for the dialects that they carry: a query is compiled in the dialect that it is asked for. -/
namespace SqlSelect

/-- What counts as alike. A name is alike only to names that are empty, or blank, when it is. -/
structure Likeness where
  name : String → String → Prop
  value : Value → Value → Prop
  isEmpty_eq : ∀ {s t}, name s t → s.isEmpty = t.isEmpty
  isBlank_eq : ∀ {s t}, name s t → (Text.trim s).isEmpty = (Text.trim t).isEmpty

structure RawSql.Alike (r : Likeness) (a b : RawSql) : Prop where
  text : a.text = b.text
  args : List.Forall₂ r.value a.args b.args

structure Join.Alike (r : Likeness) (a b : Join) : Prop where
  kind : a.kind = b.kind
  table : r.name a.table b.table
  left : r.name a.left b.left
  op : a.op = b.op
  right : r.name a.right b.right

inductive SortKey.Alike (r : Likeness) : SortKey → SortKey → Prop where
  | column {s t : String} (direction : Direction) (name : r.name s t) :
    SortKey.Alike r (.column s direction) (.column t direction)
  | raw {a b : RawSql} (sql : a.Alike r b) : SortKey.Alike r (.raw a) (.raw b)

mutual

inductive Query.Alike (r : Likeness) : Query → Query → Prop where
  | intro {a b : Query} (action : a.action = b.action) (fault : a.fault = b.fault)
    (columns : List.Forall₂ (Column.Alike r) a.columns b.columns)
    (source : Option.Rel (Source.Alike r) a.source b.source)
    (joins : List.Forall₂ (Join.Alike r) a.joins b.joins)
    (conditions : List.Forall₂ (Condition.Alike r) a.conditions b.conditions)
    (order : List.Forall₂ (SortKey.Alike r) a.order b.order)
    (limit : a.limit = b.limit) (offset : a.offset = b.offset) : Query.Alike r a b

inductive Column.Alike (r : Likeness) : Column → Column → Prop where
  | name {s t : String} (name : r.name s t) : Column.Alike r (.name s) (.name t)
  | raw {a b : RawSql} (sql : a.Alike r b) : Column.Alike r (.raw a) (.raw b)
  | subquery {s t : String} {a b : Option Query} (label : r.name s t)
    (query : Option.Rel (Query.Alike r) a b) : Column.Alike r (.subquery s a) (.subquery t b)

inductive Source.Alike (r : Likeness) : Source → Source → Prop where
  | table {s t : String} (name : r.name s t) : Source.Alike r (.table s) (.table t)
  | raw {a b : RawSql} (sql : a.Alike r b) : Source.Alike r (.raw a) (.raw b)
  | subquery {s t : String} {a b : Option Query} (label : r.name s t)
    (query : Option.Rel (Query.Alike r) a b) : Source.Alike r (.subquery s a) (.subquery t b)

inductive Predicate.Alike (r : Likeness) : Predicate → Predicate → Prop where
  | comparison {s t : String} {v w : Value} (op : String) (column : r.name s t)
    (value : r.value v w) : Predicate.Alike r (.comparison s op v) (.comparison t op w)
  | between {s t : String} {low low' high high' : Value} (negated : Bool) (column : r.name s t)
    (lower : r.value low low') (upper : r.value high high') :
    Predicate.Alike r (.between s negated low high) (.between t negated low' high')
  | membership {s t : String} {vs ws : List Value} (negated : Bool) (column : r.name s t)
    (members : List.Forall₂ r.value vs ws) :
    Predicate.Alike r (.membership s negated vs) (.membership t negated ws)
  | nullTest {s t : String} (negated : Bool) (column : r.name s t) :
    Predicate.Alike r (.nullTest s negated) (.nullTest t negated)
  | raw {a b : RawSql} (sql : a.Alike r b) : Predicate.Alike r (.raw a) (.raw b)
  | group {as bs : List Condition} (conditions : List.Forall₂ (Condition.Alike r) as bs) :
    Predicate.Alike r (.group as) (.group bs)
  | subquery {s t : String} {a b : Query} (op : String) (column : r.name s t)
    (query : a.Alike r b) : Predicate.Alike r (.subquery s op a) (.subquery t op b)

inductive Condition.Alike (r : Likeness) : Condition → Condition → Prop where
  | intro {p p' : Predicate} (link : Link) (predicate : p.Alike r p') :
    Condition.Alike r ⟨link, p⟩ ⟨link, p'⟩

end

theorem Query.Alike.ready_eq {r : Likeness} {a b : Query} (alike : a.Alike r b) :
    a.ready = b.ready := by
  cases alike with
  | intro action fault => rw [Query.ready, Query.ready, action, fault]

/-- Rules that a text alike meets as well. Where a raw column stands is of no account to them. -/
structure TextRules.Respect (t : TextRules) (r : Likeness) : Prop where
  name : ∀ {s s'}, r.name s s' → t.name s → t.name s'
  template : ∀ {a b : RawSql}, a.Alike r b → t.template a → t.template b
  rawColumn : ∀ {a b : RawSql} {k k'}, a.Alike r b → t.rawColumn k a → t.rawColumn k' b

namespace TextRules.Respect

variable {t : TextRules} {r : Likeness}

theorem forall_of_forall₂ {α : Type} {A : α → α → Prop} {P : α → Prop} {xs ys : List α}
    (alike : List.Forall₂ A xs ys) (each : ∀ x ∈ xs, ∀ y, A x y → P y) : ∀ y ∈ ys, P y := by
  induction alike with
  | nil => exact fun _ absent => nomatch absent
  | cons head tail ih =>
    exact List.forall_mem_cons.2 ⟨each _ List.mem_cons_self _ head,
      ih fun x inside => each x (List.mem_cons_of_mem _ inside)⟩

theorem columns {columns columns' : List Column} {k k' : Nat}
    (alike : List.Forall₂ (Column.Alike r) columns columns') (met : columnsMeet t k columns)
    (each : ∀ c ∈ columns, ∀ c' k k', c.Alike r c' → c.meets t k → c'.meets t k') :
    columnsMeet t k' columns' := by
  induction alike generalizing k k' with
  | nil => rfl
  | cons head tail ih =>
    rw [columnsMeet, Bool.and_eq_true] at met ⊢
    exact ⟨each _ List.mem_cons_self _ k k' head met.1,
      ih met.2 fun c inside => each c (List.mem_cons_of_mem _ inside)⟩

theorem subquery {query query' : Option Query} (alike : Option.Rel (Query.Alike r) query query')
    (met : subqueryMeets t query)
    (inner : ∀ q ∈ query, ∀ q', q.Alike r q' → q.meets t → q'.meets t) :
    subqueryMeets t query' := by
  cases alike with
  | none => rfl
  | some same => exact inner _ rfl _ same met

theorem source {source source' : Option Source} (alike : Option.Rel (Source.Alike r) source source')
    (met : ∀ s ∈ source, s.meets t)
    (inner : ∀ s ∈ source, ∀ s', s.Alike r s' → s.meets t → s'.meets t) :
    ∀ s ∈ source', s.meets t := by
  cases alike with
  | none => exact fun _ absent => nomatch absent
  | some same => exact fun s given => Option.some.inj given ▸ inner _ rfl _ same (met _ rfl)

theorem conditions {conditions conditions' : List Condition}
    (alike : List.Forall₂ (Condition.Alike r) conditions conditions')
    (met : ∀ c ∈ conditions, c.predicate.meets t)
    (inner : ∀ c ∈ conditions, ∀ p', c.predicate.Alike r p' → c.predicate.meets t → p'.meets t) :
    ∀ c ∈ conditions', c.predicate.meets t := by
  refine forall_of_forall₂ alike fun c inside c' same => ?_
  cases same with
  | intro link predicate => exact inner _ inside _ predicate (met _ inside)

variable (h : t.Respect r)

include h

theorem join {j j' : Join} (alike : j.Alike r j') (met : j.meets t) : j'.meets t := by
  simp only [Join.meets, Bool.and_eq_true] at met ⊢
  obtain ⟨⟨⟨table, left⟩, op⟩, right⟩ := met
  exact ⟨⟨⟨h.name alike.table table, h.name alike.left left⟩, alike.op ▸ op⟩, h.name alike.right right⟩

theorem sortKey {k k' : SortKey} (alike : k.Alike r k') (met : k.meets t) : k'.meets t := by
  cases alike with
  | column direction name => exact h.name name met
  | raw sql => exact h.template sql met

/-- A query meets the rules if one like it does. -/
theorem query {q q' : Query} (alike : q.Alike r q') (met : q.meets t) : q'.meets t := by
  refine Query.nested_induction
    (Q := fun q => ∀ q', q.Alike r q' → q.meets t → q'.meets t)
    (C := fun c => ∀ c' k k', c.Alike r c' → c.meets t k → c'.meets t k')
    (S := fun s => ∀ s', s.Alike r s' → s.meets t → s'.meets t)
    (P := fun p => ∀ p', p.Alike r p' → p.meets t → p'.meets t)
    ?query ?columnName ?columnRaw ?columnSubquery ?sourceTable ?sourceRaw ?sourceSubquery
    ?comparison ?between ?membership ?nullTest ?raw ?group ?subquery q q' alike met
  case query =>
    intro q columnsInner sourceInner conditionsInner q' alike met
    have met := Query.meets_iff.1 met
    cases alike with
    | intro _ _ columns' source' joins' conditions' order' _ _ =>
      exact Query.meets_iff.2 ⟨columns columns' met.columns columnsInner,
        source source' met.source sourceInner,
        forall_of_forall₂ joins' fun j inside j' same => h.join same (met.joins j inside),
        conditions conditions' met.conditions conditionsInner,
        forall_of_forall₂ order' fun k inside k' same => h.sortKey same (met.order k inside)⟩
  case columnName =>
    intro s c' k k' alike met
    cases alike with
    | name name => exact h.name name met
  case columnRaw =>
    intro sql c' k k' alike met
    cases alike with
    | raw same => exact h.rawColumn same met
  case columnSubquery =>
    intro label query inner c' k k' alike met
    cases alike with
    | subquery name same =>
      rw [Column.meets, Bool.and_eq_true] at met ⊢
      exact ⟨h.name name met.1, subquery same met.2 inner⟩
  case sourceTable =>
    intro s s' alike met
    cases alike with
    | table name => exact h.name name met
  case sourceRaw =>
    intro sql s' alike met
    cases alike with
    | raw same => exact h.template same met
  case sourceSubquery =>
    intro label query inner s' alike met
    cases alike with
    | subquery name same =>
      rw [Source.meets, Bool.and_eq_true] at met ⊢
      exact ⟨h.name name met.1, subquery same met.2 inner⟩
  case comparison =>
    intro column op value p' alike met
    cases alike with
    | comparison op name =>
      rw [Predicate.meets, Bool.and_eq_true] at met ⊢
      exact ⟨h.name name met.1, met.2⟩
  case between =>
    intro column negated low high p' alike met
    cases alike with
    | between negated name => exact h.name name met
  case membership =>
    intro column negated members p' alike met
    cases alike with
    | membership negated name => exact h.name name met
  case nullTest =>
    intro column negated p' alike met
    cases alike with
    | nullTest negated name => exact h.name name met
  case raw =>
    intro sql p' alike met
    cases alike with
    | raw same => exact h.template same met
  case group =>
    intro list inner p' alike met
    cases alike with
    | group same =>
      rw [Predicate.meets, conditionsMeet_iff] at met ⊢
      exact conditions same met inner
  case subquery =>
    intro column op query inner p' alike met
    cases alike with
    | subquery op name same =>
      simp only [Predicate.meets, Bool.and_eq_true] at met ⊢
      exact ⟨⟨h.name name met.1.1, met.1.2⟩, inner _ same met.2⟩

end TextRules.Respect

end SqlSelect
