import SqlSelect.Query.Build
set_option autoImplicit false

/-! The values and the subqueries of a query, in document order. They are read off the query alone. -/
namespace SqlSelect

def SortKey.values : SortKey → List Value
  | column _ _ => []
  | raw sql => sql.args

mutual

/-- The values that a query binds, in the order of the text: columns, source, conditions depth first,
order. -/
def Query.values : Query → List Value
  | ⟨_, _, columns, source, _, conditions, order, _, _, _⟩ =>
    columnValues columns ++ sourceValues source ++ conditionValues conditions ++
      order.flatMap SortKey.values

def columnValues : List Column → List Value
  | [] => []
  | c :: rest => c.values ++ columnValues rest

def Column.values : Column → List Value
  | .name _ => []
  | .raw sql => sql.args
  | .subquery _ query => subqueryValues query

def subqueryValues : Option Query → List Value
  | none => []
  | some query => query.values

def sourceValues : Option Source → List Value
  | none => []
  | some source => source.values

def Source.values : Source → List Value
  | .table _ => []
  | .raw sql => sql.args
  | .subquery _ query => subqueryValues query

def conditionValues : List Condition → List Value
  | [] => []
  | ⟨_, predicate⟩ :: rest => predicate.values ++ conditionValues rest

def Predicate.values : Predicate → List Value
  | .comparison _ _ value => [value]
  | .between _ _ low high => [low, high]
  | .membership _ _ members => members
  | .nullTest _ _ => []
  | .raw sql => sql.args
  | .group conditions => conditionValues conditions
  | .subquery _ _ query => query.values

end

mutual

/-- The queries nested in a query at any depth, each before the ones nested in it. -/
def Query.subqueries : Query → List Query
  | ⟨_, _, columns, source, _, conditions, _, _, _, _⟩ =>
    columnSubqueries columns ++ sourceSubqueries source ++ conditionSubqueries conditions

def columnSubqueries : List Column → List Query
  | [] => []
  | c :: rest => c.subqueries ++ columnSubqueries rest

def Column.subqueries : Column → List Query
  | .name _ | .raw _ => []
  | .subquery _ query => optionalSubqueries query

def optionalSubqueries : Option Query → List Query
  | none => []
  | some query => query :: query.subqueries

def sourceSubqueries : Option Source → List Query
  | none => []
  | some source => source.subqueries

def Source.subqueries : Source → List Query
  | .table _ | .raw _ => []
  | .subquery _ query => optionalSubqueries query

def conditionSubqueries : List Condition → List Query
  | [] => []
  | ⟨_, predicate⟩ :: rest => predicate.subqueries ++ conditionSubqueries rest

def Predicate.subqueries : Predicate → List Query
  | .group conditions => conditionSubqueries conditions
  | .subquery _ _ query => query :: query.subqueries
  | _ => []

end

theorem columnValues_eq_flatMap (columns : List Column) :
    columnValues columns = columns.flatMap Column.values := by
  induction columns with
  | nil => rfl
  | cons c columns ih => rw [columnValues, ih, List.flatMap_cons]

theorem conditionValues_eq_flatMap (conditions : List Condition) :
    conditionValues conditions = conditions.flatMap fun c => c.predicate.values := by
  induction conditions with
  | nil => rfl
  | cons c conditions ih =>
    obtain ⟨link, predicate⟩ := c
    rw [conditionValues, ih, List.flatMap_cons]

theorem columnSubqueries_eq_flatMap (columns : List Column) :
    columnSubqueries columns = columns.flatMap Column.subqueries := by
  induction columns with
  | nil => rfl
  | cons c columns ih => rw [columnSubqueries, ih, List.flatMap_cons]

theorem conditionSubqueries_eq_flatMap (conditions : List Condition) :
    conditionSubqueries conditions = conditions.flatMap fun c => c.predicate.subqueries := by
  induction conditions with
  | nil => rfl
  | cons c conditions ih =>
    obtain ⟨link, predicate⟩ := c
    rw [conditionSubqueries, ih, List.flatMap_cons]

theorem Query.values_eq (q : Query) :
    q.values = q.columns.flatMap Column.values ++ sourceValues q.source ++
      (q.conditions.flatMap fun c => c.predicate.values) ++ q.order.flatMap SortKey.values := by
  cases q
  rw [Query.values, columnValues_eq_flatMap, conditionValues_eq_flatMap]

theorem Query.subqueries_eq (q : Query) :
    q.subqueries = q.columns.flatMap Column.subqueries ++ sourceSubqueries q.source ++
      q.conditions.flatMap fun c => c.predicate.subqueries := by
  cases q
  rw [Query.subqueries, columnSubqueries_eq_flatMap, conditionSubqueries_eq_flatMap]

end SqlSelect
