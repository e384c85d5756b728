import SqlSelect.Proofs.QuotedRegion
import SqlSelect.Proofs.Reading
import SqlSelect.Proofs.Values
set_option autoImplicit false

/-! The names that a query has written between quotes, in the order of the text. They are read off the
query, together with the number of values before each of them: that many a subquery is raised by. -/
namespace SqlSelect

/-- The names that a part of a query has written. -/
structure Spelling where
  /-- The number of values that the part binds. -/
  count : Nat
  /-- The names in order, behind so many values. -/
  names : Nat → List String

namespace Spelling

def append (a b : Spelling) : Spelling :=
  ⟨a.count + b.count, fun bound => a.names bound ++ b.names (bound + a.count)⟩

/-- Names without values. -/
def plain (names : List String) : Spelling := ⟨0, fun _ => names⟩

/-- Values without names. -/
def values (count : Nat) : Spelling := ⟨count, fun _ => []⟩

/-- What a reference has between its quotes; the wildcard has none. -/
def ofReference (r : Reference) : Spelling :=
  plain (r.quotedNames.map String.ofList)

/-- The names of a statement of its own, each changed by `carry` for the values in front of it. -/
def spliced (carry : Nat → String → String) (s : Spelling) : Spelling :=
  ⟨s.count, fun bound => (s.names 0).map (carry bound)⟩

/-- Collects the names. Those in a subquery are changed by `carry` for the values in front of it. -/
def reading (carry : Nat → String → String) : Reading Spelling where
  append := append
  keyword _ := plain []
  constant _ := plain []
  number _ := plain []
  operator _ := plain []
  column name := ofReference (.ofColumn name.toList)
  table name := ofReference (.ofTable name.toList)
  identifier name := ofReference (.ofName name.toList)
  parameter _ := values 1
  template sql := values sql.args.length
  rawColumn sql := values sql.args.length
  guarded _ s := s
  joined _ s := s
  nested _ s := s.spliced carry

end Spelling

/-- The names in a statement, with those in its subqueries changed by `carry`. -/
def Query.names (carry : Nat → String → String) (q : Query) : List String :=
  (q.read (Spelling.reading carry)).names 0

/-- Leaves a name as it is. -/
def asGiven : Nat → String → String := fun _ name => name

/-- The names as the caller gave them. -/
def Query.givenNames (q : Query) : List String :=
  q.names asGiven

section Nested

variable {M : Type} {p : Reading M} {place : Query → M → M}

theorem readSubquery_congr {query : Option Query}
    (inner : ∀ q ∈ query, (∀ s ∈ q.subqueries, p.nested s (s.read p) = place s (s.read p)) →
      q.read p = q.read { p with nested := place })
    (same : ∀ s ∈ optionalSubqueries query, p.nested s (s.read p) = place s (s.read p)) :
    readSubquery p query = readSubquery { p with nested := place } query := by
  cases query with
  | none => rfl
  | some q =>
    obtain ⟨own, deeper⟩ := List.forall_mem_cons.1 same
    rw [readSubquery, readSubquery, ← inner q rfl deeper, own]

/-- Two ways of placing a subquery make no difference where they agree on every subquery. -/
theorem Query.read_congr (place : Query → M → M) (q : Query)
    (same : ∀ s ∈ q.subqueries, p.nested s (s.read p) = place s (s.read p)) :
    q.read p = q.read { p with nested := place } := by
  revert same
  refine Query.nested_induction
    (Q := fun q => (∀ s ∈ q.subqueries, p.nested s (s.read p) = place s (s.read p)) →
      q.read p = q.read { p with nested := place })
    (C := fun c => (∀ s ∈ c.subqueries, p.nested s (s.read p) = place s (s.read p)) →
      c.read p = c.read { p with nested := place })
    (S := fun t => (∀ s ∈ t.subqueries, p.nested s (s.read p) = place s (s.read p)) →
      t.read p = t.read { p with nested := place })
    (P := fun t => (∀ s ∈ t.subqueries, p.nested s (s.read p) = place s (s.read p)) →
      t.read p = t.read { p with nested := place })
    ?query ?columnName ?columnRaw ?columnSubquery ?sourceTable ?sourceRaw ?sourceSubquery
    ?comparison ?between ?membership ?nullTest ?raw ?group ?subquery q
  case query =>
    intro q columns source conditions same
    rw [Query.subqueries_eq] at same
    have list : q.columns.map (Column.read p) =
        q.columns.map (Column.read { p with nested := place }) := by
      refine List.map_congr_left fun c inside => columns c inside fun s nested => same s ?_
      exact List.mem_append_left _ (List.mem_append_left _ (List.mem_flatMap.2 ⟨c, inside, nested⟩))
    have rows : readSource p q.source = readSource { p with nested := place } q.source := by
      cases given : q.source with
      | none => rfl
      | some t =>
        rw [given] at same
        exact source t given fun s nested =>
          same s (List.mem_append_left _ (List.mem_append_right _ nested))
    have links : (q.conditions.map fun c => (c.link, c.predicate.read p)) =
        q.conditions.map fun c => (c.link, c.predicate.read { p with nested := place }) := by
      refine List.map_congr_left fun c inside => congrArg (c.link, ·)
        (conditions c inside fun s nested => same s ?_)
      exact List.mem_append_right _ (List.mem_flatMap.2 ⟨c, inside, nested⟩)
    rw [Query.read_eq, Query.read_eq, Query.readAfterColumns, Query.readAfterColumns, list, rows, links]
  case columnSubquery =>
    intro label query inner same
    rw [Column.read, Column.read, readSubquery_congr inner same]
  case sourceSubquery =>
    intro label query inner same
    rw [Source.read, Source.read, readSubquery_congr inner same]
  case group =>
    intro conditions inner same
    rw [Predicate.subqueries, conditionSubqueries_eq_flatMap] at same
    have links : (conditions.map fun c => (c.link, c.predicate.read p)) =
        conditions.map fun c => (c.link, c.predicate.read { p with nested := place }) := by
      refine List.map_congr_left fun c inside => congrArg (c.link, ·)
        (inner c inside fun s nested => same s ?_)
      exact List.mem_flatMap.2 ⟨c, inside, nested⟩
    rw [Predicate.read, Predicate.read, readConditions_eq_map, readConditions_eq_map, links]
  case subquery =>
    intro column op query inner same
    obtain ⟨own, deeper⟩ := List.forall_mem_cons.1 same
    rw [Predicate.read, Predicate.read, ← inner deeper, own]
  all_goals
    intros
    rfl

end Nested

/-- Where no name in a subquery is changed, all names are as given. -/
theorem Query.names_eq_givenNames {carry : Nat → String → String} {q : Query}
    (untouched : ∀ s ∈ q.subqueries, ∀ name ∈ s.givenNames, ∀ bound, carry bound name = name) :
    q.names carry = q.givenNames := by
  have same : ∀ s ∈ q.subqueries, (s.read (Spelling.reading asGiven)).spliced asGiven =
      (s.read (Spelling.reading asGiven)).spliced carry := by
    intro s inside
    unfold Spelling.spliced
    congr 1
    funext bound
    exact List.map_congr_left fun name given => (untouched s inside name given bound).symm
  exact congrArg (fun s : Spelling => s.names 0)
    (Query.read_congr (p := Spelling.reading asGiven) (fun _ s => s.spliced carry) q same).symm

end SqlSelect
