import Mathlib.Data.List.Basic
import SqlSelect.Proofs.Collecting
import SqlSelect.Proofs.Parameters
import SqlSelect.Proofs.Template
set_option autoImplicit false

/-! What is wrong with a query, in document order. A query compiles exactly when nothing is, and otherwise
it is refused for the first thing that is. -/
namespace SqlSelect

open Emitter

/-- A template must have as many markers as values. -/
def RawSql.violations (sql : RawSql) : List Fault :=
  if markers sql.text.toList = sql.args.length then []
  else [.argumentCount (markers sql.text.toList) sql.args.length]

def Join.violations (d : Dialect) (j : Join) : List Fault :=
  if j.kind = .full ∧ d.supportsFullJoin = false then [.fullJoinUnsupported] else []

def SortKey.violations : SortKey → List Fault
  | column _ _ => []
  | raw sql => sql.violations

/-- A query that takes its place in another one is refused for the fault of its construction, or for
want of an action; what is wrong with its parts comes after that. -/
def Query.refusals (q : Query) (own : List Fault) : List Fault :=
  match q.fault, q.action with
  | some e, _ => [e]
  | none, none => [.noAction]
  | none, some .select => own

mutual

/-- What is wrong with a query: columns, source, joins, conditions depth first, order. -/
def Query.violations (d : Dialect) : Query → List Fault
  | ⟨_, _, columns, source, joins, conditions, order, _, _, _⟩ =>
    columnViolations d columns ++ sourceViolations d source ++ joins.flatMap (Join.violations d) ++
      conditionViolations d conditions ++ order.flatMap SortKey.violations

def columnViolations (d : Dialect) : List Column → List Fault
  | [] => []
  | c :: rest => c.violations d ++ columnViolations d rest

def Column.violations (d : Dialect) : Column → List Fault
  | .name _ | .raw _ => []
  | .subquery label query => labelledViolations d label query

/-- A subquery under a label: that there is one comes first, then that the label is not empty. -/
def labelledViolations (d : Dialect) (label : String) : Option Query → List Fault
  | none => [.missingSubquery]
  | some query => if label.isEmpty then [.emptyAlias] else query.refusals (query.violations d)

def sourceViolations (d : Dialect) : Option Source → List Fault
  | none => [.emptyTable]
  | some source => source.violations d

def Source.violations (d : Dialect) : Source → List Fault
  | .table name => if (Text.trim name).isEmpty then [.emptyTable] else []
  | .raw sql => if (Text.trim sql.text).isEmpty then [.emptyExpression] else sql.violations
  | .subquery label query => labelledViolations d label query

def conditionViolations (d : Dialect) : List Condition → List Fault
  | [] => []
  | ⟨_, predicate⟩ :: rest => predicate.violations d ++ conditionViolations d rest

def Predicate.violations (d : Dialect) : Predicate → List Fault
  | .comparison _ _ _ | .between _ _ _ _ | .membership _ _ _ | .nullTest _ _ => []
  | .raw sql => sql.violations
  | .group conditions => conditionViolations d conditions
  | .subquery _ _ query => query.refusals (query.violations d)

end

section Lists

variable (d : Dialect)

theorem columnViolations_eq_flatMap (columns : List Column) :
    columnViolations d columns = columns.flatMap (Column.violations d) := by
  induction columns with
  | nil => rfl
  | cons c columns ih => rw [columnViolations, ih, List.flatMap_cons]

theorem conditionViolations_eq_flatMap (conditions : List Condition) :
    conditionViolations d conditions = conditions.flatMap fun c => c.predicate.violations d := by
  induction conditions with
  | nil => rfl
  | cons c conditions ih =>
    obtain ⟨link, predicate⟩ := c
    rw [conditionViolations, ih, List.flatMap_cons]

theorem Query.violations_eq (q : Query) :
    q.violations d = q.columns.flatMap (Column.violations d) ++ sourceViolations d q.source ++
      q.joins.flatMap (Join.violations d) ++
      (q.conditions.flatMap fun c => c.predicate.violations d) ++
      q.order.flatMap SortKey.violations := by
  cases q
  rw [Query.violations, columnViolations_eq_flatMap, conditionViolations_eq_flatMap]

end Lists

namespace Violations

/-- Collects what is wrong. A guard that fails hides what is behind it. -/
def reading (d : Dialect) : Reading (List Fault) where
  append := (· ++ ·)
  keyword _ := []
  constant _ := []
  number _ := []
  operator _ := []
  column _ := []
  table _ := []
  identifier _ := []
  parameter _ := []
  template := RawSql.violations
  rawColumn _ := []
  guarded fault own := fault.elim own fun e => [e]
  joined kind own := (d.joinFault kind).elim own fun e => [e]
  nested := Query.refusals

variable (d : Dialect)

theorem reading_collects : (reading d).Collects id where
  append _ _ := rfl
  keyword _ := rfl
  constant _ := rfl
  number _ := rfl
  operator _ := rfl
  identifier _ := rfl

theorem reading_join (j : Join) : (reading d).join j = j.violations d := by
  have own : (reading d).join j = (d.joinFault j.kind).elim [] fun e => [e] := rfl
  rw [own, Dialect.joinFault, Join.violations]
  by_cases unsupported : j.kind = .full ∧ d.supportsFullJoin = false
  · simp [unsupported]
  · have supported : ¬ (j.kind = .full && !d.supportsFullJoin) := by simpa using unsupported
    rw [if_neg supported, if_neg unsupported]
    rfl

theorem reading_sortKey (k : SortKey) : (reading d).sortKey k = k.violations := by
  cases k <;> rfl

theorem reading_labelled {query : Option Query}
    (inner : ∀ q ∈ query, q.read (reading d) = q.violations d) (label : String) :
    (reading d).labelled label (readSubquery (reading d) query) =
      labelledViolations d label query := by
  cases query with
  | none => rfl
  | some q =>
    rw [readSubquery, inner q rfl, Pieces.labelled, labelledViolations]
    split
    · rfl
    · exact ((reading_collects d).between _ _ _).trans (List.append_nil _)

end Violations

/-- What is collected is what is wrong. -/
theorem Query.read_violations (d : Dialect) (q : Query) :
    q.read (Violations.reading d) = q.violations d := by
  have h := Violations.reading_collects d
  refine Query.nested_induction
    (Q := fun q => q.read (Violations.reading d) = q.violations d)
    (C := fun c => c.read (Violations.reading d) = c.violations d)
    (S := fun s => s.read (Violations.reading d) = s.violations d)
    (P := fun p => p.read (Violations.reading d) = p.violations d)
    ?query (fun _ => rfl) (fun _ => rfl) ?columnSubquery ?sourceTable ?sourceRaw ?sourceSubquery
    h.comparison h.range ?membership h.nullTest (fun _ => rfl) ?group ?subquery q
  case query =>
    intro q columns source conditions
    have rows : readSource (Violations.reading d) q.source = sourceViolations d q.source := by
      cases given : q.source with
      | none => rfl
      | some s => exact source s given
    refine (h.query q).trans ?_
    have list : (q.columns.flatMap fun c => c.read (Violations.reading d)) =
        q.columns.flatMap (Column.violations d) := List.flatMap_congr columns
    have links : (q.conditions.flatMap fun c => c.predicate.read (Violations.reading d)) =
        q.conditions.flatMap fun c => c.predicate.violations d := List.flatMap_congr conditions
    simp only [id, Query.violations_eq, rows, list, links, Violations.reading_join,
      Violations.reading_sortKey]
  case columnSubquery => exact fun label query inner => Violations.reading_labelled d inner label
  case sourceTable =>
    intro name
    rw [Source.violations, Source.read]
    split
    · rfl
    · rfl
  case sourceRaw =>
    intro sql
    rw [Source.violations, Source.read]
    split
    · rfl
    · rfl
  case sourceSubquery => exact fun label query inner => Violations.reading_labelled d inner label
  case membership =>
    intro column negated members
    refine (h.membership column negated members).trans ?_
    exact List.flatMap_eq_nil_iff.2 fun _ _ => rfl
  case group =>
    intro conditions inner
    refine (h.group conditions).trans ?_
    rw [Predicate.violations, conditionViolations_eq_flatMap]
    exact List.flatMap_congr inner
  case subquery =>
    intro column op query inner
    refine (h.subquery column op query).trans ?_
    rw [inner]
    rfl

/-- Whether a result is the one to expect of something with these faults: the first of them, or a
fragment if there are none. -/
inductive Verdict : List Fault → Except Fault Fragment → Prop where
  | clean (f : Fragment) : Verdict [] (.ok f)
  | refused (e : Fault) (later : List Fault) : Verdict (e :: later) (.error e)

namespace Emitter

/-- Whatever stands before it, the emitter is refused for the first of the faults, or for none. -/
def Judged (a : Emitter) (faults : List Fault) : Prop :=
  ∀ bound, Verdict faults (a.run bound)

variable {a b : Emitter} {own more : List Fault} {d : Dialect}

theorem judged_text (s : String) : (text s).Judged [] :=
  fun _ => .clean _

theorem Judged.guarded (inner : a.Judged own) (fault : Option Fault) :
    (guarded fault a).Judged (fault.elim own fun e => [e]) := by
  cases fault with
  | none => exact inner
  | some e => exact fun _ => .refused e []

theorem judged_template (sql : RawSql) : (template d sql).Judged sql.violations := by
  intro bound
  rw [run_template, RawSql.violations]
  split
  · exact .clean _
  · exact .refused _ []

/-- The second piece is not written once the first one is refused. -/
theorem Judged.append (first : a.Judged own) (second : b.Judged more) :
    (a ++ b).Judged (own ++ more) := by
  intro bound
  have front := first bound
  generalize hx : a.run bound = x at front
  cases front with
  | refused e later =>
    rw [(run_append_eq_error_iff ..).2 (Or.inl hx)]
    exact .refused e _
  | clean x =>
    have back := second (bound + x.params.length)
    generalize hy : b.run (bound + x.params.length) = y at back
    cases back with
    | refused e later =>
      rw [(run_append_eq_error_iff ..).2 (Or.inr ⟨x, hx, hy⟩)]
      exact .refused e later
    | clean y =>
      rw [(run_append_eq_ok_iff ..).2 ⟨x, y, hx, hy, rfl⟩]
      exact .clean _

theorem Judged.embedded (inner : a.Judged own) (q : Query) :
    (embedded d q.ready a).Judged (q.refusals own) := by
  intro bound
  rw [run_embedded, Query.ready, Query.refusals]
  cases q.fault with
  | some e => exact .refused e []
  | none =>
    cases q.action with
    | none => exact .refused .noAction []
    | some action =>
      have alone := inner 0
      simp only [Except.bind]
      generalize a.run 0 = x at alone
      cases alone with
      | refused e later => exact .refused e later
      | clean f => exact .clean _

end Emitter

theorem judged_compositional (d : Dialect) :
    Compositional .any d (Violations.reading d) Emitter.Judged where
  keyword _ := judged_text _
  constant _ := judged_text _
  number _ := judged_text _
  operator _ := judged_text _
  column _ := judged_text _
  table _ := judged_text _
  identifier _ := judged_text _
  parameter _ := fun _ => .clean _
  template _ := judged_template _
  guarded fault _ _ inner := inner.guarded fault
  joined kind _ _ inner := inner.guarded (d.joinFault kind)
  append first second _ := first.append second

theorem Query.emitter_judged (d : Dialect) (q : Query) : (q.emitter d).Judged (q.violations d) := by
  rw [← q.read_violations]
  exact (judged_compositional d).query (embedded d) (fun _ _ => .clean _)
    (fun q inner => inner.embedded q) q q.meets_any

/-- A query is refused exactly for the first of its violations, and compiles exactly when there are
none. -/
theorem Query.compile_eq_error_iff_head_violations (d : Dialect) (q : Query) :
    (∀ e, q.compile d = .error e ↔ (q.violations d).head? = some e) ∧
      ((∃ f, q.compile d = .ok f) ↔ q.violations d = []) := by
  have verdict := q.emitter_judged d 0
  change Verdict _ (q.compile d) at verdict
  generalize q.violations d = faults, q.compile d = result at verdict
  cases verdict with
  | clean f => simp
  | refused e later => simp

example : ({ Query.empty with
    joins := [⟨.full, "u", "t.id", "=", "u.id"⟩]
    conditions := [⟨.and, .group [⟨.and, .raw ⟨"a = ?", []⟩⟩]⟩] } : Query).violations .generic =
    [.emptyTable, .fullJoinUnsupported, .argumentCount 1 0] := by
  decide +kernel

end SqlSelect
