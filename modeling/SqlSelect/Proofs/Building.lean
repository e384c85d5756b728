import SqlSelect.Proofs.Latching
import SqlSelect.Proofs.Tree
import SqlSelect.Proofs.Values
import SqlSelect.Proofs.WellFormed
set_option autoImplicit false

/-! What a chain of steps ends in. A SELECT stays one, and no step leaves a query that is not well-formed. -/
namespace SqlSelect

namespace Call

/-- A SELECT stays a SELECT. -/
theorem applyAll_selects (chain : List Call) {q : Query} (selects : q.action = some .select) :
    (applyAll q chain).action = some .select := by
  rw [action_applyAll, selects, ite_self]

/-- What holds of the query that a carried chain makes holds of the one that its function does. -/
theorem forall_configured {chain : Option (List Call)} {q : Query} {P : Query → Prop}
    (each : ∀ given ∈ chain, P (applyAll q given)) :
    ∀ p ∈ (configuration chain).map fun f => f q, P p := by
  cases chain with
  | none => exact fun _ absent => nomatch absent
  | some given =>
    intro p same
    cases same
    exact each given rfl

/-- A step keeps a query well-formed if the chain it carries keeps queries well-formed. -/
theorem apply_wellFormed (c : Call) (q : Query)
    (carried : ∀ chain ∈ c.chain?, ∀ p : Query, p.WellFormed → (applyAll p chain).WellFormed)
    (h : q.WellFormed) : (apply q c).WellFormed := by
  -- For a subquery the carried chain starts from a fresh SELECT; for a group, from a fresh scope.
  have selects : ∀ chain ∈ c.chain?, (applyAll q.inner chain).action = some .select :=
    fun chain _ => applyAll_selects chain rfl
  have inner : ∀ chain ∈ c.chain?, (applyAll q.inner chain).WellFormed :=
    fun chain given => carried chain given _ (.inner q)
  cases c with
  | dialect d =>
    rw [apply]
    exact h.withDialect d
  | select names =>
    rw [apply]
    exact h.select names
  | selectRaw text args =>
    rw [apply]
    exact h.selecting.given fun _ ok => h.selecting.addColumn (.raw (checked_ok ok))
  | selectSubquery label chain =>
    rw [apply, Query.selectSubquery_eq]
    exact h.selecting.addColumn (.subquery (Text.trim_trim label) (forall_configured selects)
      (forall_configured inner))
  | selectPermitted inputs permitted =>
    rw [apply]
    exact h.select _
  | fromTable table =>
    rw [apply]
    exact h.fromTable table
  | fromRaw text args =>
    rw [apply]
    exact h.given fun _ ok => h.setSource (.raw (checked_ok ok))
  | fromSubquery label chain =>
    rw [apply, Query.fromSubquery_eq]
    exact h.setSource (.subquery (Text.trim_trim label) (forall_configured selects)
      (forall_configured inner))
  | fromPermitted input permitted =>
    rw [apply]
    exact h.fromPermitted input permitted
  | join kind table left op right =>
    rw [apply]
    exact h.given fun _ ok => h.addJoin (checkJoin_ok ok)
  | orderBy column direction =>
    rw [apply]
    exact h.given fun _ ok => h.addOrder (.column direction (checkName_ok ok))
  | orderByRaw text args =>
    rw [apply]
    exact h.given fun _ ok => h.addOrder (.raw (checked_ok ok))
  | limit n =>
    rw [apply]
    exact h.withLimit n
  | offset n =>
    rw [apply]
    exact h.withOffset n
  | whereOp link column op args =>
    rw [apply]
    exact h.addChecked link fun _ => Predicate.ofOperator_ok
  | whereBetween link negated column low high =>
    rw [apply]
    exact h.addChecked link fun _ => Predicate.ofBetween_ok
  | whereIn link negated column args =>
    rw [apply]
    exact h.addChecked link fun _ => Predicate.ofMembership_ok
  | whereNull link negated column =>
    rw [apply]
    exact h.addChecked link fun _ => Predicate.ofNullTest_ok
  | whereRaw link text args =>
    rw [apply]
    exact h.addPredicate link (.raw _)
  | whereGroup link chain =>
    rw [apply, Query.whereGroup_eq]
    exact h.addGroup link (carried chain rfl _ (.scope q))
  | whereSubquery link column op chain =>
    cases chain with
    | none =>
      rw [apply, configuration, Query.whereSubquery_none]
      exact h.reject _
    | some chain =>
      rw [apply, configuration, Query.whereSubquery_some]
      refine h.given fun head ok => h.addPredicate link ?_
      exact subqueryHead_ok ok (selects chain rfl) (inner chain rfl)

/-- Whatever chain of steps a query goes through, it stays well-formed. -/
theorem applyAll_wellFormed (chain : List Call) {q : Query} (h : q.WellFormed) :
    (applyAll q chain).WellFormed :=
  applyAll_preserves apply_wellFormed chain q h

end Call

/-- What is well-formed reaches down to every nested query, and each of those is a SELECT. -/
theorem Query.WellFormed.forall_subqueries {q : Query} (h : q.WellFormed) :
    ∀ s ∈ q.subqueries, s.WellFormed ∧ s.action = some .select := by
  have optional : ∀ {query : Option Query}, (∀ q ∈ query, q.action = some .select) →
      (∀ q ∈ query, q.WellFormed) →
      (∀ q ∈ query, q.WellFormed → ∀ s ∈ q.subqueries, s.WellFormed ∧ s.action = some .select) →
      ∀ s ∈ optionalSubqueries query, s.WellFormed ∧ s.action = some .select := by
    intro query selects inner deeper
    cases query with
    | none => exact fun _ absent => nomatch absent
    | some q =>
      exact List.forall_mem_cons.2 ⟨⟨inner q rfl, selects q rfl⟩, deeper q rfl (inner q rfl)⟩
  refine Query.nested_induction
    (Q := fun q => q.WellFormed → ∀ s ∈ q.subqueries, s.WellFormed ∧ s.action = some .select)
    (C := fun c => c.WellFormed → ∀ s ∈ c.subqueries, s.WellFormed ∧ s.action = some .select)
    (S := fun t => t.WellFormed → ∀ s ∈ t.subqueries, s.WellFormed ∧ s.action = some .select)
    (P := fun p => p.WellFormed → ∀ s ∈ p.subqueries, s.WellFormed ∧ s.action = some .select)
    ?query ?columnName ?columnRaw ?columnSubquery ?sourceTable ?sourceRaw ?sourceSubquery
    ?comparison ?between ?membership ?nullTest ?raw ?group ?subquery q h
  case query =>
    intro q columnsInner sourceInner conditionsInner h s inside
    cases h with
    | intro columns source joins conditions order =>
      rw [Query.subqueries_eq, List.mem_append, List.mem_append, List.mem_flatMap,
        List.mem_flatMap] at inside
      rcases inside with (⟨c, among, inColumn⟩ | inSource) | ⟨c, among, inCondition⟩
      · exact columnsInner c among (columns c among) s inColumn
      · cases given : q.source with
        | none =>
          rw [given] at inSource
          cases inSource
        | some t =>
          rw [given] at inSource
          exact sourceInner t given (source t given) s inSource
      · exact conditionsInner c among (conditions c among) s inCondition
  case columnName => exact fun _ _ _ absent => nomatch absent
  case columnRaw => exact fun _ _ _ absent => nomatch absent
  case columnSubquery =>
    intro label query deeper h
    cases h with
    | subquery trimmed selects inner => exact optional selects inner deeper
  case sourceTable => exact fun _ _ _ absent => nomatch absent
  case sourceRaw => exact fun _ _ _ absent => nomatch absent
  case sourceSubquery =>
    intro label query deeper h
    cases h with
    | subquery trimmed selects inner => exact optional selects inner deeper
  case comparison => exact fun _ _ _ _ _ absent => nomatch absent
  case between => exact fun _ _ _ _ _ _ absent => nomatch absent
  case membership => exact fun _ _ _ _ _ absent => nomatch absent
  case nullTest => exact fun _ _ _ _ absent => nomatch absent
  case raw => exact fun _ _ _ absent => nomatch absent
  case group =>
    intro conditions deeper h s inside
    cases h with
    | group written inner =>
      rw [Predicate.subqueries, conditionSubqueries_eq_flatMap, List.mem_flatMap] at inside
      obtain ⟨c, among, inCondition⟩ := inside
      exact deeper c among (inner c among) s inCondition
  case subquery =>
    intro column op query deeper h
    cases h with
    | subquery trimmed canonical alone selects inner =>
      exact List.forall_mem_cons.2 ⟨⟨inner, selects⟩, deeper inner⟩

/-- Any chain of steps on a fresh query, with a dialect or without, ends in a well-formed query, and so do
the chains of all the queries nested in it, which are SELECTs. -/
theorem Query.built_wellFormed (d : Option Dialect) (chain : List Call) :
    (Call.applyAll { empty with dialect := d } chain).WellFormed ∧
      ∀ s ∈ (Call.applyAll { empty with dialect := d } chain).subqueries,
        s.WellFormed ∧ s.action = some .select := by
  have fresh : WellFormed { empty with dialect := d } := .of_bare rfl rfl rfl rfl rfl
  have built := Call.applyAll_wellFormed chain fresh
  exact ⟨built, built.forall_subqueries⟩

end SqlSelect
