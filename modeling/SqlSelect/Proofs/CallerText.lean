import SqlSelect.Proofs.Tree
import SqlSelect.Proofs.Values
set_option autoImplicit false

/-! What is asked of the texts in a query that come from its caller, at every depth. -/
namespace SqlSelect

/-- A demand on each kind of text. A raw column is judged together with the number of values that the
columns before it bind. -/
structure TextRules where
  name : String → Bool
  operator : String → Bool
  template : RawSql → Bool
  rawColumn : Nat → RawSql → Bool

def Join.meets (r : TextRules) (j : Join) : Bool :=
  r.name j.table && r.name j.left && r.operator j.op && r.name j.right

def SortKey.meets (r : TextRules) : SortKey → Bool
  | column name _ => r.name name
  | raw sql => r.template sql

mutual

/-- Whether every caller's text in the query, and in the queries nested in it, is as demanded. -/
def Query.meets (r : TextRules) : Query → Bool
  | ⟨_, _, columns, source, joins, conditions, order, _, _, _⟩ =>
    columnsMeet r 0 columns && sourceMeets r source && joins.all (Join.meets r) &&
      conditionsMeet r conditions && order.all (SortKey.meets r)

def columnsMeet (r : TextRules) (before : Nat) : List Column → Bool
  | [] => true
  | c :: rest => c.meets r before && columnsMeet r (before + c.values.length) rest

def Column.meets (r : TextRules) (before : Nat) : Column → Bool
  | .name name => r.name name
  | .raw sql => r.rawColumn before sql
  | .subquery label query => r.name label && subqueryMeets r query

def subqueryMeets (r : TextRules) : Option Query → Bool
  | none => true
  | some query => query.meets r

def sourceMeets (r : TextRules) : Option Source → Bool
  | none => true
  | some source => source.meets r

def Source.meets (r : TextRules) : Source → Bool
  | .table name => r.name name
  | .raw sql => r.template sql
  | .subquery label query => r.name label && subqueryMeets r query

def conditionsMeet (r : TextRules) : List Condition → Bool
  | [] => true
  | ⟨_, predicate⟩ :: rest => predicate.meets r && conditionsMeet r rest

def Predicate.meets (r : TextRules) : Predicate → Bool
  | .comparison column op _ => r.name column && r.operator op
  | .between column _ _ _ | .membership column _ _ | .nullTest column _ => r.name column
  | .raw sql => r.template sql
  | .group conditions => conditionsMeet r conditions
  | .subquery column op query => r.name column && r.operator op && query.meets r

end

variable {r : TextRules}

theorem conditionsMeet_iff {conditions : List Condition} :
    conditionsMeet r conditions ↔ ∀ c ∈ conditions, c.predicate.meets r := by
  induction conditions with
  | nil => simp [conditionsMeet]
  | cons c conditions ih =>
    obtain ⟨link, predicate⟩ := c
    simp [conditionsMeet, ih]

theorem subqueryMeets_iff {query : Option Query} :
    subqueryMeets r query ↔ ∀ q ∈ query, q.meets r := by
  cases query <;> simp [subqueryMeets]

theorem exists_meets_of_columnsMeet {before : Nat} {columns : List Column}
    (met : columnsMeet r before columns) : ∀ c ∈ columns, ∃ before, c.meets r before := by
  induction columns generalizing before with
  | nil => exact fun _ absent => nomatch absent
  | cons c columns ih =>
    rw [columnsMeet, Bool.and_eq_true] at met
    exact List.forall_mem_cons.2 ⟨⟨before, met.1⟩, ih met.2⟩

/-- The demand on a whole query, clause by clause. -/
structure Query.Met (r : TextRules) (q : Query) : Prop where
  columns : columnsMeet r 0 q.columns
  source : ∀ s ∈ q.source, s.meets r
  joins : ∀ j ∈ q.joins, j.meets r
  conditions : ∀ c ∈ q.conditions, c.predicate.meets r
  order : ∀ k ∈ q.order, k.meets r

theorem Query.meets_iff {q : Query} : q.meets r ↔ q.Met r := by
  cases q with
  | mk dialect action columns source joins conditions order limit offset fault =>
    have sources : sourceMeets r source ↔ ∀ s ∈ source, s.meets r := by
      cases source <;> simp [sourceMeets]
    simp only [Query.meets, Bool.and_eq_true, List.all_eq_true, conditionsMeet_iff, sources]
    constructor
    · rintro ⟨⟨⟨⟨columns, source⟩, joins⟩, conditions⟩, order⟩
      exact ⟨columns, source, joins, conditions, order⟩
    · rintro ⟨columns, source, joins, conditions, order⟩
      exact ⟨⟨⟨⟨columns, source⟩, joins⟩, conditions⟩, order⟩

/-- Rules that hold of every text are met by every query. -/
theorem Query.meets_of_forall (name : ∀ s, r.name s) (operator : ∀ s, r.operator s)
    (template : ∀ sql, r.template sql) (rawColumn : ∀ before sql, r.rawColumn before sql) :
    ∀ q : Query, q.meets r := by
  have columnsMet : ∀ {columns : List Column} before, (∀ c ∈ columns, ∀ k, c.meets r k) →
      columnsMeet r before columns := by
    intro columns before each
    induction columns generalizing before with
    | nil => rfl
    | cons c columns ih =>
      rw [columnsMeet, Bool.and_eq_true]
      exact ⟨each c List.mem_cons_self before,
        ih _ fun k inside => each k (List.mem_cons_of_mem c inside)⟩
  refine Query.nested_induction (Q := fun q => q.meets r) (C := fun c => ∀ k, c.meets r k)
    (S := fun s => s.meets r) (P := fun p => p.meets r) ?query (fun s _ => name s)
    (fun sql k => rawColumn k sql) ?columnSubquery name template ?sourceSubquery
    ?comparison (fun s _ _ _ => name s) (fun s _ _ => name s) (fun s _ => name s) template ?group
    ?subquery
  case query =>
    intro q columns source conditions
    refine Query.meets_iff.2 ⟨columnsMet 0 columns, source, fun j _ => ?_, conditions, fun k _ => ?_⟩
    · simp [Join.meets, name, operator]
    · cases k with
      | column s direction => exact name s
      | raw sql => exact template sql
  case columnSubquery =>
    intro label query inner k
    rw [Column.meets, Bool.and_eq_true, subqueryMeets_iff]
    exact ⟨name label, inner⟩
  case sourceSubquery =>
    intro label query inner
    rw [Source.meets, Bool.and_eq_true, subqueryMeets_iff]
    exact ⟨name label, inner⟩
  case comparison =>
    intro column op value
    rw [Predicate.meets, name, operator]
    rfl
  case group => exact fun conditions inner => conditionsMeet_iff.2 inner
  case subquery =>
    intro column op query inner
    rw [Predicate.meets, name, operator, inner]
    rfl

end SqlSelect
