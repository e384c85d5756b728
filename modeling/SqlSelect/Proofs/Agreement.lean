import SqlSelect.Proofs.DialectSpelling
import SqlSelect.Proofs.Outcome
import SqlSelect.Proofs.Violation
set_option autoImplicit false

/-! The dialects agree. A query is refused in all of them for the same fault, FULL JOIN apart, and what they
write differs in the spelling of the placeholders alone. -/
namespace SqlSelect

open Emitter

/-- Two dialects find the same wrong with every join of these queries. -/
def Dialect.AgreeOnJoins (d d' : Dialect) (queries : List Query) : Prop :=
  ∀ s ∈ queries, ∀ j ∈ s.joins, j.violations d = j.violations d'

section Violations

variable {d d' : Dialect}

theorem labelledViolations_congr (label : String) {query : Option Query}
    (inner : ∀ q ∈ query, d.AgreeOnJoins d' (q :: q.subqueries) → q.violations d = q.violations d')
    (same : d.AgreeOnJoins d' (optionalSubqueries query)) :
    labelledViolations d label query = labelledViolations d' label query := by
  cases query with
  | none => rfl
  | some q => rw [labelledViolations, labelledViolations, inner q rfl same]

/-- Joins are all that dialects can disagree on. -/
theorem Query.violations_congr (q : Query) (same : d.AgreeOnJoins d' (q :: q.subqueries)) :
    q.violations d = q.violations d' := by
  revert same
  refine Query.nested_induction
    (Q := fun q => d.AgreeOnJoins d' (q :: q.subqueries) → q.violations d = q.violations d')
    (C := fun c => d.AgreeOnJoins d' c.subqueries → c.violations d = c.violations d')
    (S := fun s => d.AgreeOnJoins d' s.subqueries → s.violations d = s.violations d')
    (P := fun p => d.AgreeOnJoins d' p.subqueries → p.violations d = p.violations d')
    ?query ?columnName ?columnRaw ?columnSubquery ?sourceTable ?sourceRaw ?sourceSubquery
    ?comparison ?between ?membership ?nullTest ?raw ?group ?subquery q
  case query =>
    intro q columns source conditions same
    obtain ⟨own, deeper⟩ := List.forall_mem_cons.1 same
    rw [Query.subqueries_eq] at deeper
    have list : q.columns.flatMap (Column.violations d) = q.columns.flatMap (Column.violations d') := by
      refine List.flatMap_congr fun c inside => columns c inside fun s nested => deeper s ?_
      exact List.mem_append_left _ (List.mem_append_left _ (List.mem_flatMap.2 ⟨c, inside, nested⟩))
    have rows : sourceViolations d q.source = sourceViolations d' q.source := by
      cases given : q.source with
      | none => rfl
      | some t =>
        rw [given] at deeper
        exact source t given fun s nested =>
          deeper s (List.mem_append_left _ (List.mem_append_right _ nested))
    have joins : q.joins.flatMap (Join.violations d) = q.joins.flatMap (Join.violations d') :=
      List.flatMap_congr own
    have links : (q.conditions.flatMap fun c => c.predicate.violations d) =
        q.conditions.flatMap fun c => c.predicate.violations d' := by
      refine List.flatMap_congr fun c inside => conditions c inside fun s nested => deeper s ?_
      exact List.mem_append_right _ (List.mem_flatMap.2 ⟨c, inside, nested⟩)
    rw [Query.violations_eq, Query.violations_eq, list, rows, joins, links]
  case columnSubquery => exact fun label query inner same => labelledViolations_congr label inner same
  case sourceSubquery => exact fun label query inner same => labelledViolations_congr label inner same
  case group =>
    intro conditions inner same
    rw [Predicate.subqueries, conditionSubqueries_eq_flatMap] at same
    rw [Predicate.violations, Predicate.violations, conditionViolations_eq_flatMap,
      conditionViolations_eq_flatMap]
    refine List.flatMap_congr fun c inside => inner c inside fun s nested => same s ?_
    exact List.mem_flatMap.2 ⟨c, inside, nested⟩
  case subquery =>
    intro column op query inner same
    rw [Predicate.violations, Predicate.violations, inner same]
  all_goals
    intros
    rfl

theorem Verdict.outcome {faults : List Fault} {x y : Except Fault Fragment} (left : Verdict faults x)
    (right : Verdict faults y) : Outcome (fun _ _ => True) x y := by
  cases left with
  | clean f =>
    cases right with
    | clean g => exact .given trivial
  | refused e later =>
    cases right with
    | refused => exact .refused e

end Violations

/-- No FULL JOIN in the query, nor in one nested in it. -/
def Query.FullJoinFree (q : Query) : Prop :=
  ∀ s ∈ q :: q.subqueries, ∀ j ∈ s.joins, j.kind ≠ .full

instance (q : Query) : Decidable q.FullJoinFree :=
  inferInstanceAs (Decidable (∀ s ∈ q :: q.subqueries, ∀ j ∈ s.joins, j.kind ≠ .full))

/-- What is written of a query for PostgreSQL and in another spelling: the parameters are the same, and so
are the texts but for the placeholders, if the caller wrote no `$` and no `?` right before a digit. -/
structure Query.SpelledAs (q : Query) (write : List Char → List Char) (f g : Fragment) : Prop where
  params : f.params = g.params
  text : q.meets .numberFree → g.text = respelled write f.text

namespace Query

variable {d : Dialect} {write : List Char → List Char} {q : Query}

theorem spelledAs_of_compiled {f g : Fragment} (h : d.Respells write)
    (compiled : q.compile .postgres = .ok f) (compiled' : q.compile d = .ok g) :
    q.SpelledAs write f g := by
  constructor
  · rw [(q.emitter_binds .postgres).params compiled, (q.emitter_binds d).params compiled']
  · intro met
    obtain ⟨x, written, covered⟩ := q.emitter_covers h met 0 g compiled'
    have same : x = f := Except.ok.inj (written.symm.trans compiled)
    rw [← same]
    exact covered.text

theorem outcome_of_violations_eq (h : d.Respells write)
    (same : q.violations .postgres = q.violations d) :
    Outcome (q.SpelledAs write) (q.compile .postgres) (q.compile d) := by
  have left : Verdict (q.violations .postgres) (q.compile .postgres) := q.emitter_judged .postgres 0
  have right : Verdict (q.violations d) (q.compile d) := q.emitter_judged d 0
  rw [← same] at right
  exact (left.outcome right).imp fun compiled compiled' _ => spelledAs_of_compiled h compiled compiled'

/-- PostgreSQL and SQLite refuse the same queries for the same faults, and so does the generic dialect where
there is no FULL JOIN. What they compile binds the same parameters, and the texts are the same once
every `$` with a number is replaced by `?` with that number, or by a bare `?`. -/
theorem compile_agrees (q : Query) :
    Outcome (q.SpelledAs fun digits => '?' :: digits) (q.compile .postgres) (q.compile .sqlite) ∧
      (q.FullJoinFree →
        Outcome (q.SpelledAs fun _ => ['?']) (q.compile .postgres) (q.compile .generic)) ∧
      ∀ f g, q.compile .postgres = .ok f → q.compile .generic = .ok g →
        q.SpelledAs (fun _ => ['?']) f g := by
  refine ⟨?_, fun free => ?_, fun f g => spelledAs_of_compiled Dialect.generic_respells⟩
  · exact outcome_of_violations_eq Dialect.sqlite_respells (q.violations_congr fun _ _ _ _ => rfl)
  · refine outcome_of_violations_eq Dialect.generic_respells (q.violations_congr fun s inside j among => ?_)
    simp only [Join.violations, free s inside j among, false_and, if_false]

theorem goodOrders_agrees :
    ∃ f g h, goodOrders.compile .postgres = .ok f ∧ goodOrders.compile .sqlite = .ok g ∧
      goodOrders.compile .generic = .ok h ∧ f.params = g.params ∧ f.params = h.params ∧
      g.text = respelled (fun digits => '?' :: digits) f.text ∧
      h.text = respelled (fun _ => ['?']) f.text := by
  obtain ⟨f, compiled, -⟩ := goodOrders_written
  have free : goodOrders.meets .numberFree := by decide +kernel
  obtain ⟨numbered, bare, -⟩ := compile_agrees goodOrders
  obtain ⟨g, compiled', spelled⟩ := numbered.exists_of_ok compiled
  obtain ⟨h, compiled'', spelled'⟩ := (bare (by decide +kernel)).exists_of_ok compiled
  exact ⟨f, g, h, compiled, compiled', compiled'', spelled.params, spelled'.params, spelled.text free,
    spelled'.text free⟩

end Query

end SqlSelect
