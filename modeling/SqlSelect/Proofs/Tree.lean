import SqlSelect.Query.Build
set_option autoImplicit false

/-! Induction over a query with everything nested in it: one case for each kind of part, and in each case
the property holds of all the parts inside. -/
namespace SqlSelect

theorem Query.nested_induction {Q : Query → Prop} {C : Column → Prop} {S : Source → Prop}
    {P : Predicate → Prop}
    (query : ∀ q : Query, (∀ c ∈ q.columns, C c) → (∀ s ∈ q.source, S s) →
      (∀ c ∈ q.conditions, P c.predicate) → Q q)
    (columnName : ∀ name, C (.name name))
    (columnRaw : ∀ sql, C (.raw sql))
    (columnSubquery : ∀ label query, (∀ q ∈ query, Q q) → C (.subquery label query))
    (sourceTable : ∀ name, S (.table name))
    (sourceRaw : ∀ sql, S (.raw sql))
    (sourceSubquery : ∀ label query, (∀ q ∈ query, Q q) → S (.subquery label query))
    (comparison : ∀ column op value, P (.comparison column op value))
    (between : ∀ column negated low high, P (.between column negated low high))
    (membership : ∀ column negated members, P (.membership column negated members))
    (nullTest : ∀ column negated, P (.nullTest column negated))
    (raw : ∀ sql, P (.raw sql))
    (group : ∀ conditions : List Condition, (∀ c ∈ conditions, P c.predicate) →
      P (.group conditions))
    (subquery : ∀ column op query, Q query → P (.subquery column op query)) :
    ∀ q, Q q := by
  refine @Query.rec Q C S P (fun c => P c.predicate) (fun columns => ∀ c ∈ columns, C c)
    (fun source => ∀ s ∈ source, S s) (fun conditions => ∀ c ∈ conditions, P c.predicate)
    (fun query => ∀ q ∈ query, Q q) ?query columnName columnRaw columnSubquery sourceTable sourceRaw
    sourceSubquery comparison between membership nullTest raw group subquery
    (fun _ _ inside => inside) ?noColumn ?moreColumns ?noSource ?someSource ?noCondition
    ?moreConditions ?noQuery ?someQuery
  case query =>
    intro dialect action columns source joins conditions order limit offset fault
    exact query ⟨dialect, action, columns, source, joins, conditions, order, limit, offset, fault⟩
  case noColumn => exact fun _ absent => nomatch absent
  case moreColumns => exact fun _ _ head tail => List.forall_mem_cons.2 ⟨head, tail⟩
  case noSource => exact fun _ absent => nomatch absent
  case someSource => exact fun _ inside s same => Option.some.inj same ▸ inside
  case noCondition => exact fun _ absent => nomatch absent
  case moreConditions => exact fun _ _ head tail => List.forall_mem_cons.2 ⟨head, tail⟩
  case noQuery => exact fun _ absent => nomatch absent
  case someQuery => exact fun _ inside q same => Option.some.inj same ▸ inside

/-- By induction over the groups of a predicate; what is in a subquery does not matter. -/
theorem Predicate.group_induction {P : Predicate → Prop}
    (single : ∀ p : Predicate, (∀ conditions, p ≠ .group conditions) → P p)
    (group : ∀ conditions : List Condition, (∀ c ∈ conditions, P c.predicate) →
      P (.group conditions)) : ∀ p, P p := by
  have all : ∀ q : Query, ∀ c ∈ q.conditions, P c.predicate := by
    refine Query.nested_induction (C := fun _ => True) (S := fun _ => True) (P := P)
      (fun _ _ _ inside => inside) ?columnName ?columnRaw ?columnSubquery ?sourceTable ?sourceRaw
      ?sourceSubquery ?comparison ?between ?membership ?nullTest ?raw group ?subquery
    case comparison => exact fun _ _ _ => single _ (fun _ same => by cases same)
    case between => exact fun _ _ _ _ => single _ (fun _ same => by cases same)
    case membership => exact fun _ _ _ => single _ (fun _ same => by cases same)
    case nullTest => exact fun _ _ => single _ (fun _ same => by cases same)
    case raw => exact fun _ => single _ (fun _ same => by cases same)
    case subquery => exact fun _ _ _ _ => single _ (fun _ same => by cases same)
    all_goals
      intros
      trivial
  intro p
  exact all { Query.empty with conditions := [⟨.and, p⟩] } ⟨.and, p⟩ (List.mem_singleton.2 rfl)

end SqlSelect
