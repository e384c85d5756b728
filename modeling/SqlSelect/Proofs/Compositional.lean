import SqlSelect.Proofs.CallerText
import SqlSelect.Proofs.Reading
set_option autoImplicit false

/-! Relations between what is written and what is read. A relation that holds of the single pieces and
survives putting pieces together at a seam holds of whole statements. -/
namespace SqlSelect

open Emitter Text

/-- A relation between emitters and their meanings that holds of every piece of a statement whose texts
meet the rules, and of two pieces together when a separator stands where they meet. -/
structure Compositional {M : Type} (r : TextRules) (d : Dialect) (p : Reading M)
    (R : Emitter → M → Prop) : Prop where
  keyword : ∀ {s}, isKeyword s → R (text s) (p.keyword s)
  constant : ∀ holds : Bool, R (text (if holds then "1 = 1" else "1 = 0")) (p.constant holds)
  number : ∀ n : Nat, R (text (toString n)) (p.number n)
  operator : ∀ {s}, r.operator s → R (text s) (p.operator s)
  column : ∀ {s}, r.name s → R (text (d.quoteColumn s)) (p.column s)
  table : ∀ {s}, r.name s → R (text (d.quoteTable s)) (p.table s)
  identifier : ∀ {s}, r.name s → R (text (d.quoteIdentifier s)) (p.identifier s)
  parameter : ∀ v, R (parameter d v) (p.parameter v)
  template : ∀ {sql}, r.template sql → R (template d sql) (p.template sql)
  guarded : ∀ fault {a m}, R a m → R (guarded fault a) (p.guarded fault m)
  joined : ∀ kind {a m}, R a m → R (Emitter.guarded (d.joinFault kind) a) (p.joined kind m)
  append : ∀ {a m b n}, R a m → R b n → a.Closes ∨ b.Opens → R (a ++ b) (p.append m n)

namespace Compositional

variable {M : Type} {r : TextRules} {d : Dialect} {p : Reading M} {R : Emitter → M → Prop}
  (h : Compositional r d p R)

include h

/-- A keyword with separators at its ends can stand between any two pieces. -/
theorem between {a b : Emitter} {m n : M} {s : String} (first : R a m) (second : R b n)
    (spaced : isSpaced s) : R (a ++ text s ++ b) (p.between m s n) := by
  obtain ⟨word, open', close, written⟩ := isSpaced_iff.1 spaced
  exact h.append (h.append first (h.keyword word) (Or.inr (opens_text open'))) second
    (Or.inl (closes_append_text a close written))

theorem led {a : Emitter} {m : M} {s : String} (first : R a m) (word : isKeyword s)
    (close : closes s) : R (text s ++ a) (p.append (p.keyword s) m) :=
  h.append (h.keyword word) first (Or.inl (closes_text close))

theorem trailed {a : Emitter} {m : M} {s : String} (first : R a m) (word : isKeyword s)
    (open' : opens s) : R (a ++ text s) (p.append m (p.keyword s)) :=
  h.append first (h.keyword word) (Or.inr (opens_text open'))

theorem empty : R Emitter.empty (p.keyword "") :=
  h.keyword rfl

theorem separated {α : Type} {write : α → Emitter} {meaning : α → M} {items : List α}
    (each : ∀ x ∈ items, R (write x) (meaning x)) :
    R (Emitter.joined ", " (items.map write)) (p.separated ", " (items.map meaning)) := by
  induction items with
  | nil => exact h.empty
  | cons x items ih =>
    have head := each x List.mem_cons_self
    have tail := ih fun y inside => each y (List.mem_cons_of_mem x inside)
    cases items with
    | nil => exact head
    | cons y items => exact h.between head tail (by decide)

theorem linkedRest {α : Type} {link : α → Link} {write : α → Emitter} {meaning : α → M}
    {items : List α} (each : ∀ x ∈ items, R (write x) (meaning x)) :
    R (linked.linkedRest (items.map fun x => (link x, write x)))
      (Pieces.linked.linkedRest p.toPieces (items.map fun x => (link x, meaning x))) := by
  induction items with
  | nil => exact h.empty
  | cons x items ih =>
    have head := each x List.mem_cons_self
    have tail := ih fun y inside => each y (List.mem_cons_of_mem x inside)
    have word : ∀ l : Link, isKeyword (" " ++ l.keyword ++ " ") ∧
        closes (" " ++ l.keyword ++ " ") := by
      intro l
      cases l <;> decide
    exact h.append (h.led head (word (link x)).1 (word (link x)).2) tail
      (Or.inr (opens_linkedRest _))

theorem linked {α : Type} {link : α → Link} {write : α → Emitter} {meaning : α → M}
    {items : List α} (each : ∀ x ∈ items, R (write x) (meaning x)) :
    R (Emitter.linked (items.map fun x => (link x, write x)))
      (p.linked (items.map fun x => (link x, meaning x))) := by
  cases items with
  | nil => exact h.empty
  | cons x items =>
    exact h.append (each x List.mem_cons_self)
      (h.linkedRest fun y inside => each y (List.mem_cons_of_mem x inside))
      (Or.inr (opens_linkedRest _))

theorem bracketed {a : Emitter} {m : M} (inner : R a m) :
    R (text "(" ++ a ++ text ")") (p.bracketed m) :=
  h.trailed (h.led inner (by decide) (by decide)) (by decide) (by decide)

theorem labelled {embed : Embedding} {label : String} {query : Option Query}
    (named : r.name label)
    (inner : ∀ q ∈ query, R (embed q.ready (q.emitterVia d embed)) (p.nested q (q.read p))) :
    R (Emitter.labelled d label (subqueryEmitter d embed query))
      (p.labelled label (readSubquery p query)) := by
  cases query with
  | none => exact h.guarded (some .missingSubquery) h.empty
  | some q =>
    have body := h.led (inner q rfl) (s := "(") (by decide) (by decide)
    rw [subqueryEmitter, Emitter.labelled, text_append, ← append_assoc, ← guarded_ite]
    exact h.guarded _ (h.between body (h.identifier named) (by decide))

theorem join {j : Join} (met : j.meets r) : R (j.emitter d) (p.join j) := by
  simp only [Join.meets, Bool.and_eq_true] at met
  obtain ⟨⟨⟨tableMet, leftMet⟩, opMet⟩, rightMet⟩ := met
  have head := h.between (h.keyword (s := j.kind.keyword) (by cases j.kind <;> decide))
    (h.table tableMet) (s := " ") (by decide)
  have left := h.between head (h.identifier leftMet) (s := " ON ") (by decide)
  have compared := h.between left (h.operator opMet) (s := " ") (by decide)
  have all := h.between compared (h.identifier rightMet) (s := " ") (by decide)
  rw [Join.emitter, ← guarded_ite]
  exact h.joined j.kind all

theorem sortKey {k : SortKey} (met : k.meets r) : R (k.emitter d) (p.sortKey k) := by
  cases k with
  | column name direction =>
    exact h.between (h.identifier met) (h.keyword (by cases direction <;> decide)) (by decide)
  | raw sql => exact h.template met

theorem joinsClause {joins : List Join} (met : ∀ j ∈ joins, j.meets r) :
    R (joinsClause d joins) (p.joinsClause joins) := by
  unfold SqlSelect.joinsClause Pieces.joinsClause
  induction joins with
  | nil => exact h.empty
  | cons j joins ih =>
    have head := h.led (h.join (met j List.mem_cons_self)) (s := " ") (by decide) (by decide)
    have tail := ih fun k inside => met k (List.mem_cons_of_mem j inside)
    cases joins with
    | nil => exact head
    | cons next joins =>
      exact h.append (h.trailed head rfl rfl) tail (Or.inr (opens_joinsClause d (next :: joins)))

theorem whereClause {embed : Embedding} {conditions : List Condition}
    (each : ∀ c ∈ conditions, R (c.predicate.emitterVia d embed) (c.predicate.read p)) :
    R (whereClause (conditions.map fun c => (c.link, c.predicate.emitterVia d embed)))
      (p.whereClause (conditions.map fun c => (c.link, c.predicate.read p))) := by
  cases conditions with
  | nil => exact h.empty
  | cons c conditions => exact h.led (h.linked each) (by decide) (by decide)

theorem orderClause {order : List SortKey} (met : ∀ k ∈ order, k.meets r) :
    R (orderClause d order) (p.orderClause order) := by
  cases order with
  | nil => exact h.empty
  | cons k order =>
    exact h.led (h.separated fun k inside => h.sortKey (met k inside)) (by decide) (by decide)

theorem numberClause (s : String) (n : Option Nat) (word : isKeyword s) (close : closes s) :
    R (numberClause s n) (p.numberClause s n) := by
  cases n with
  | none => exact h.empty
  | some n => exact h.led (h.number n) word close

theorem membership {column : String} (named : r.name column) (negated : Bool)
    (members : List Value) :
    R (membershipEmitter d column negated members) (p.membership column negated members) := by
  unfold membershipEmitter Pieces.membership
  split
  · exact h.constant negated
  · have head : d.quoteIdentifier column ++ " " ++ negatable negated "IN" ++ " (" =
        d.quoteIdentifier column ++ (" " ++ negatable negated "IN" ++ " (") := by
      simp only [String.append_assoc]
    rw [head]
    exact h.trailed (h.between (h.identifier named)
      (h.separated fun v (_ : v ∈ members) => h.parameter v) (by cases negated <;> decide))
      (by decide) (by decide)

theorem afterColumns {embed : Embedding} {q : Query}
    (source : R (sourceEmitter d embed q.source) (readSource p q.source))
    (joins : ∀ j ∈ q.joins, j.meets r)
    (conditions : ∀ c ∈ q.conditions, R (c.predicate.emitterVia d embed) (c.predicate.read p))
    (order : ∀ k ∈ q.order, k.meets r) : R (q.afterColumns d embed) (q.readAfterColumns p) := by
  have numbers := h.append (h.numberClause " LIMIT " q.limit (by decide) (by decide))
    (h.numberClause " OFFSET " q.offset (by decide) (by decide)) (Or.inr (opens_offset q))
  have fromOrder := h.append (h.orderClause order) numbers (Or.inr (opens_limits q))
  have fromWhere := h.append (h.whereClause conditions) fromOrder (Or.inr (opens_fromOrder d q))
  have fromJoins := h.append (h.joinsClause joins) fromWhere (Or.inr (opens_fromWhere d embed q))
  have fromSource := h.append source fromJoins (Or.inr (opens_fromJoins d embed q))
  exact h.led fromSource (by decide) (by decide)

/-- A related list of columns makes a related statement. -/
theorem ofColumns {embed : Embedding} {q : Query}
    (columns : ∀ c ∈ q.columns, R (c.emitterVia d embed) (c.read p))
    (rest : R (q.afterColumns d embed) (q.readAfterColumns p)) :
    R (q.emitterVia d embed) (q.read p) := by
  rw [Query.emitterVia_eq_afterColumns, Query.read_eq]
  refine h.led (h.append ?_ rest (Or.inr (opens_afterColumns d embed q))) (by decide) (by decide)
  cases list : q.columns with
  | nil => exact h.keyword (by decide)
  | cons c more => exact h.separated (list ▸ columns)

/-- By induction over the tree: if `Q` follows for a query once its parts are related, and makes the query
related where it is nested, then `Q` holds of every query that meets the rules. A raw column is left to
the premise on queries, because what holds of it depends on the columns before it. -/
theorem nested (embed : Embedding) {Q : Query → Prop}
    (embedded : ∀ q, Q q → R (embed q.ready (q.emitterVia d embed)) (p.nested q (q.read p)))
    (query : ∀ q : Query, q.Met r →
      (∀ c ∈ q.columns, ∀ before, c.meets r before →
        (∃ sql, c = .raw sql) ∨ R (c.emitterVia d embed) (c.read p)) →
      R (q.afterColumns d embed) (q.readAfterColumns p) → Q q) :
    ∀ q : Query, q.meets r → Q q := by
  refine Query.nested_induction (Q := fun q => q.meets r → Q q)
    (C := fun c => ∀ before, c.meets r before →
      (∃ sql, c = .raw sql) ∨ R (c.emitterVia d embed) (c.read p))
    (S := fun s => s.meets r → R (s.emitterVia d embed) (s.read p))
    (P := fun c => c.meets r → R (c.emitterVia d embed) (c.read p))
    ?query ?columnName ?columnRaw ?columnSubquery ?sourceTable ?sourceRaw ?sourceSubquery
    ?comparison ?between ?membership ?nullTest ?raw ?group ?subquery
  case query =>
    intro q columns source conditions meets
    have met := Query.meets_iff.1 meets
    refine query q met columns (h.afterColumns ?_ met.joins
      (fun c inside => conditions c inside (met.conditions c inside)) met.order)
    cases given : q.source with
    | none => exact h.guarded (some .emptyTable) h.empty
    | some s => exact source s given (met.source s given)
  case columnName => exact fun name before named => Or.inr (h.column named)
  case columnRaw => exact fun sql before _ => Or.inl ⟨sql, rfl⟩
  case columnSubquery =>
    intro label query inner before met
    rw [Column.meets, Bool.and_eq_true, subqueryMeets_iff] at met
    exact Or.inr (h.labelled met.1 fun q inside => embedded q (inner q inside (met.2 q inside)))
  case sourceTable =>
    intro name named
    rw [Source.emitterVia, ← guarded_ite]
    exact h.guarded _ (h.table named)
  case sourceRaw =>
    intro sql met
    rw [Source.emitterVia, ← guarded_ite]
    exact h.guarded _ (h.template met)
  case sourceSubquery =>
    intro label query inner met
    rw [Source.meets, Bool.and_eq_true, subqueryMeets_iff] at met
    exact h.labelled met.1 fun q inside => embedded q (inner q inside (met.2 q inside))
  case comparison =>
    intro column op value met
    rw [Predicate.meets, Bool.and_eq_true] at met
    have compared := h.between (h.identifier met.1) (h.operator met.2) (s := " ") (by decide)
    exact h.between compared (h.parameter value) (by decide)
  case between =>
    intro column negated low high named
    have head : d.quoteIdentifier column ++ " " ++ negatable negated "BETWEEN" ++ " " =
        d.quoteIdentifier column ++ (" " ++ negatable negated "BETWEEN" ++ " ") := by
      simp only [String.append_assoc]
    have first := h.between (h.identifier named) (h.parameter low)
      (s := " " ++ negatable negated "BETWEEN" ++ " ") (by cases negated <;> decide)
    rw [Predicate.emitterVia, head]
    exact h.between first (h.parameter high) (by decide)
  case membership => exact fun column negated members named => h.membership named negated members
  case nullTest =>
    intro column negated named
    exact h.trailed (h.identifier named) (by cases negated <;> decide) (by cases negated <;> decide)
  case raw => exact fun sql met => h.template met
  case group =>
    intro conditions inner met
    rw [Predicate.meets, conditionsMeet_iff] at met
    rw [Predicate.emitterVia, Predicate.read, conditionEmitters_eq_map, readConditions_eq_map]
    exact h.bracketed (h.linked fun c inside => inner c inside (met c inside))
  case subquery =>
    intro column op query inner met
    simp only [Predicate.meets, Bool.and_eq_true] at met
    obtain ⟨⟨named, opMet⟩, queryMet⟩ := met
    have body := embedded query (inner queryMet)
    rw [Predicate.emitterVia, Predicate.read, subqueryHeadText]
    split
    · exact h.trailed (h.between (h.operator opMet) body (by decide)) (by decide) (by decide)
    · have compared := h.between (h.identifier named) (h.operator opMet) (s := " ") (by decide)
      exact h.trailed (h.between compared body (by decide)) (by decide) (by decide)

/-- Where raw columns are like any other piece, every query is related to its meaning. -/
theorem query (embed : Embedding)
    (raw : ∀ {before sql}, r.rawColumn before sql → R (verbatim sql) (p.rawColumn sql))
    (embedded : ∀ q, R (q.emitterVia d embed) (q.read p) →
      R (embed q.ready (q.emitterVia d embed)) (p.nested q (q.read p))) :
    ∀ q : Query, q.meets r → R (q.emitterVia d embed) (q.read p) := by
  refine h.nested embed embedded fun q met columns rest => h.ofColumns (fun c inside => ?_) rest
  obtain ⟨before, meets⟩ := exists_meets_of_columnsMeet met.columns c inside
  rcases columns c inside before meets with ⟨sql, rfl⟩ | related
  · exact raw meets
  · exact related

end Compositional

end SqlSelect
