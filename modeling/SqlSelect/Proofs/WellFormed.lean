import SqlSelect.Proofs.Canonical
import SqlSelect.Proofs.Chain
import SqlSelect.Proofs.Flattening
import SqlSelect.Proofs.RangeBounds
set_option autoImplicit false

/-! What a query is made of, however it was built. Every step checks what it takes in, so that a chain of
steps ends in a well-formed query, whether or not a fault was noted on the way. -/
namespace SqlSelect

/-- A name with something in it and no white space around it. -/
structure IsName (s : String) : Prop where
  trimmed : Text.trim s = s
  written : s ≠ ""

/-- Text of the caller's own that is more than white space. -/
def RawSql.IsWritten (sql : RawSql) : Prop :=
  Text.trim sql.text ≠ ""

structure Join.WellFormed (j : Join) : Prop where
  table : IsName j.table
  left : IsName j.left
  right : IsName j.right
  op : j.op ∈ Query.joinOperators

inductive SortKey.WellFormed : SortKey → Prop where
  | column {name : String} (direction : Direction) (named : IsName name) :
    SortKey.WellFormed (.column name direction)
  | raw {sql : RawSql} (written : sql.IsWritten) : SortKey.WellFormed (.raw sql)

mutual

/-- Every part of the query is as the steps leave it, and every query nested in it is a SELECT that is
well-formed itself. -/
inductive Query.WellFormed : Query → Prop where
  | intro {q : Query} (columns : ∀ c ∈ q.columns, c.WellFormed)
    (source : ∀ s ∈ q.source, s.WellFormed) (joins : ∀ j ∈ q.joins, j.WellFormed)
    (conditions : ∀ c ∈ q.conditions, c.predicate.WellFormed)
    (order : ∀ k ∈ q.order, k.WellFormed) : Query.WellFormed q

inductive Column.WellFormed : Column → Prop where
  | name {s : String} (named : IsName s) : Column.WellFormed (.name s)
  | raw {sql : RawSql} (written : sql.IsWritten) : Column.WellFormed (.raw sql)
  | subquery {label : String} {query : Option Query} (trimmed : Text.trim label = label)
    (selects : ∀ q ∈ query, q.action = some .select) (inner : ∀ q ∈ query, q.WellFormed) :
    Column.WellFormed (.subquery label query)

inductive Source.WellFormed : Source → Prop where
  | table {s : String} (named : IsName s) : Source.WellFormed (.table s)
  | raw {sql : RawSql} (written : sql.IsWritten) : Source.WellFormed (.raw sql)
  | subquery {label : String} {query : Option Query} (trimmed : Text.trim label = label)
    (selects : ∀ q ∈ query, q.action = some .select) (inner : ∀ q ∈ query, q.WellFormed) :
    Source.WellFormed (.subquery label query)

inductive Predicate.WellFormed : Predicate → Prop where
  | comparison {column op : String} (value : Value) (named : IsName column)
    (free : Operator.canonical op ∉ Operator.reserved) :
    Predicate.WellFormed (.comparison column op value)
  | between {column : String} {low high : Value} (negated : Bool) (named : IsName column)
    (lower : low.IsScalar) (upper : high.IsScalar) :
    Predicate.WellFormed (.between column negated low high)
  | membership {column : String} {members : List Value} (negated : Bool) (named : IsName column)
    (scalars : ∀ v ∈ members, v.IsScalar) :
    Predicate.WellFormed (.membership column negated members)
  | nullTest {column : String} (negated : Bool) (named : IsName column) :
    Predicate.WellFormed (.nullTest column negated)
  | raw (sql : RawSql) : Predicate.WellFormed (.raw sql)
  | group {conditions : List Condition} (written : conditions ≠ [])
    (inner : ∀ c ∈ conditions, c.predicate.WellFormed) : Predicate.WellFormed (.group conditions)
  | subquery {column op : String} {query : Query} (trimmed : Text.trim column = column)
    (canonical : Operator.canonical op = op)
    (alone : column = "" → op = "EXISTS" ∨ op = "NOT EXISTS")
    (selects : query.action = some .select) (inner : query.WellFormed) :
    Predicate.WellFormed (.subquery column op query)

end

section Checks

theorem checkName_ok {fault : Fault} {text name : String} (ok : checkName fault text = .ok name) :
    IsName name := by
  unfold checkName at ok
  split at ok
  · cases ok
  · rename_i written
    cases ok
    exact ⟨Text.trim_trim text, by simpa using written⟩

theorem checked_ok {text : String} {args : List Arg} {sql : RawSql}
    (ok : RawSql.checked text args = .ok sql) : sql.IsWritten := by
  unfold RawSql.checked checkName at ok
  split at ok
  · cases ok
  · rename_i written
    cases ok
    simpa [RawSql.IsWritten, RawSql.ofArgs] using written

theorem checkJoin_ok {kind : JoinKind} {table left op right : String} {j : Join}
    (ok : Query.checkJoin kind table left op right = .ok j) : j.WellFormed := by
  obtain ⟨name, named, rest⟩ := exists_of_bind_ok ok
  simp only at rest
  split at rest
  · cases rest
  · rename_i passed
    cases rest
    simp only [Bool.or_eq_true, String.isEmpty_iff, decide_eq_true_eq, not_or, not_not] at passed
    obtain ⟨⟨leftWritten, rightWritten⟩, known⟩ := passed
    exact ⟨checkName_ok named, ⟨Text.trim_trim left, leftWritten⟩,
      ⟨Text.trim_trim right, rightWritten⟩, known⟩

/-- The column in front of a subquery may be missing only where the operator takes none. -/
theorem subqueryHead_ok {column op : String} {head : String × String} {query : Query}
    (ok : Query.subqueryHead column op = .ok head) (selects : query.action = some .select)
    (inner : query.WellFormed) : (Predicate.subquery head.1 head.2 query).WellFormed := by
  unfold Query.subqueryHead at ok
  split at ok
  · cases ok
  · rename_i passed
    cases ok
    refine .subquery (Text.trim_trim column) (Operator.canonical_canonical op) (fun blank => ?_) selects
      inner
    rw [Bool.and_eq_true, not_and, Bool.not_eq_true', Bool.not_eq_false] at passed
    exact (Operator.takesNoColumn_iff op).1 (passed (String.isEmpty_iff.2 blank))

end Checks

namespace Arg

theorem flatten_ok {args : List Arg} {values : List Value} (ok : flatten args = .ok values) :
    ∀ v ∈ values, v.IsScalar := by
  rw [flatten_eq_mapM] at ok
  exact (mapM_member_eq_ok_iff.1 ok).2

end Arg

namespace Predicate

theorem ofBetween_ok {column : String} {negated : Bool} {args : List Arg} {p : Predicate}
    (ok : ofBetween column negated args = .ok p) : p.WellFormed := by
  obtain ⟨name, named, rest⟩ := exists_of_bind_ok ok
  obtain ⟨⟨low, high⟩, found, last⟩ := exists_of_bind_ok rest
  cases last
  obtain ⟨-, lower, upper⟩ := bounds_eq_ok_iff.1 found
  exact .between negated (checkName_ok named) lower upper

theorem ofMembership_ok {column : String} {negated : Bool} {args : List Arg} {p : Predicate}
    (ok : ofMembership column negated args = .ok p) : p.WellFormed := by
  obtain ⟨name, named, rest⟩ := exists_of_bind_ok ok
  obtain ⟨members, found, last⟩ := exists_of_bind_ok rest
  cases last
  exact .membership negated (checkName_ok named) (Arg.flatten_ok found)

theorem ofNullTest_ok {column : String} {negated : Bool} {p : Predicate}
    (ok : ofNullTest column negated = .ok p) : p.WellFormed := by
  obtain ⟨name, named, last⟩ := exists_of_bind_ok ok
  cases last
  exact .nullTest negated (checkName_ok named)

theorem ofOperator_ok {column op : String} {args : List Arg} {p : Predicate}
    (ok : ofOperator column (Operator.ofText op) args = .ok p) : p.WellFormed := by
  cases read : Operator.ofText op with
  | between negated =>
    rw [read] at ok
    exact ofBetween_ok ok
  | membership negated =>
    rw [read] at ok
    exact ofMembership_ok ok
  | nullTest negated =>
    rw [read] at ok
    exact ofNullTest_ok ok
  | existence negated =>
    rw [read] at ok
    cases ok
  | comparison text =>
    rw [read] at ok
    obtain ⟨name, named, last⟩ := exists_of_bind_ok ok
    cases last
    exact .comparison _ (checkName_ok named) (Operator.ofText_eq_comparison read).2

end Predicate

namespace Query

variable {q : Query}

namespace WellFormed

/-- A query without parts. -/
theorem of_bare (columns : q.columns = []) (source : q.source = none) (joins : q.joins = [])
    (conditions : q.conditions = []) (order : q.order = []) : q.WellFormed := by
  refine .intro ?_ ?_ ?_ ?_ ?_
  · simp [columns]
  · simp [source]
  · simp [joins]
  · simp [conditions]
  · simp [order]

theorem scope (q : Query) : q.scope.WellFormed :=
  of_bare rfl rfl rfl rfl rfl

theorem inner (q : Query) : q.inner.WellFormed :=
  of_bare rfl rfl rfl rfl rfl

variable (h : q.WellFormed)

include h

theorem conditions : ∀ c ∈ q.conditions, c.predicate.WellFormed := by
  cases h
  assumption

/-- What is not a part of the statement does not matter. -/
theorem withDialect (d : Dialect) : (q.withDialect d).WellFormed := by
  cases h with
  | intro columns source joins conditions order =>
    exact .intro columns source joins conditions order

theorem withLimit (n : Nat) : (q.withLimit n).WellFormed := by
  cases h with
  | intro columns source joins conditions order =>
    exact .intro columns source joins conditions order

theorem withOffset (n : Nat) : (q.withOffset n).WellFormed := by
  cases h with
  | intro columns source joins conditions order =>
    exact .intro columns source joins conditions order

theorem selecting : q.selecting.WellFormed := by
  cases h with
  | intro columns source joins conditions order =>
    exact .intro columns source joins conditions order

theorem reject (e : Fault) : (q.reject e).WellFormed := by
  cases h with
  | intro columns source joins conditions order =>
    exact .intro columns source joins conditions order

/-- A refused input leaves no trace but the fault. -/
theorem given {α : Type} {input : Except Fault α} {step : α → Query}
    (each : ∀ a, input = .ok a → (step a).WellFormed) : (q.given input step).WellFormed := by
  cases input with
  | error e => exact h.reject e
  | ok a => exact each a rfl

theorem addColumn {c : Column} (column : c.WellFormed) : (q.addColumn c).WellFormed := by
  cases h with
  | intro columns source joins conditions order =>
    exact .intro (List.forall_mem_append.2 ⟨columns, List.forall_mem_singleton.2 column⟩) source joins
      conditions order

theorem setSource {s : Source} (rows : s.WellFormed) :
    WellFormed { q with source := some s } := by
  cases h with
  | intro columns source joins conditions order =>
    exact .intro columns (fun t same => Option.some.inj same ▸ rows) joins conditions order

theorem addJoin {j : Join} (join : j.WellFormed) : WellFormed { q with joins := q.joins ++ [j] } := by
  cases h with
  | intro columns source joins conditions order =>
    exact .intro columns source (List.forall_mem_append.2 ⟨joins, List.forall_mem_singleton.2 join⟩)
      conditions order

theorem addPredicate (link : Link) {p : Predicate} (predicate : p.WellFormed) :
    (q.addPredicate link p).WellFormed := by
  cases h with
  | intro columns source joins conditions order =>
    exact .intro columns source joins
      (List.forall_mem_append.2 ⟨conditions, List.forall_mem_singleton.2 predicate⟩) order

theorem addOrder {k : SortKey} (key : k.WellFormed) : (q.addOrder k).WellFormed := by
  cases h with
  | intro columns source joins conditions order =>
    exact .intro columns source joins conditions
      (List.forall_mem_append.2 ⟨order, List.forall_mem_singleton.2 key⟩)

theorem select (names : List String) : (q.select names).WellFormed := by
  have each : ∀ {p : Query}, p.WellFormed →
      (names.foldl (fun q name => q.given (checkName .emptyColumn name) fun n => q.addColumn (.name n))
        p).WellFormed := by
    induction names with
    | nil => exact fun h => h
    | cons name names ih =>
      intro p h
      exact ih (h.given fun n ok => h.addColumn (.name (checkName_ok ok)))
  exact each h.selecting

theorem fromTable (table : String) : (q.fromTable table).WellFormed :=
  h.given fun _ ok => h.setSource (.table (checkName_ok ok))

theorem fromPermitted (input : String) (permitted : List (String × String)) :
    (q.fromPermitted input permitted).WellFormed := by
  unfold Query.fromPermitted
  split
  · exact h.fromTable _
  · exact h.reject _

theorem addChecked (link : Link) {p : Except Fault Predicate} (each : ∀ t, p = .ok t → t.WellFormed) :
    (q.addChecked link p).WellFormed :=
  h.given fun t ok => h.addPredicate link (each t ok)

/-- A group brings its conditions and its fault, and no group is empty. -/
theorem addGroup (link : Link) {group : Query} (inner : group.WellFormed) :
    (q.addGroup link group).WellFormed := by
  -- The fault is noted before the conditions are taken over, and changes nothing about them.
  have closed : ∀ {p : Query}, p.WellFormed →
      (if group.conditions.isEmpty then p
        else p.addPredicate link (.group group.conditions)).WellFormed := by
    intro p h
    split
    · exact h
    · rename_i written
      exact h.addPredicate link (.group (by simpa using written) inner.conditions)
  unfold Query.addGroup
  cases group.fault with
  | none => exact closed h
  | some e => exact closed (h.reject e)

end WellFormed

end Query

end SqlSelect
