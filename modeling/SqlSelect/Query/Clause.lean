import SqlSelect.Query.Basic
set_option autoImplicit false

/-! The steps that fill the clauses of a query other than WHERE. A step never fails outright: it notes
the first fault on the query and leaves its clause alone. The steps ending in `M` hand a fresh query
to a function with effects of its own. -/
namespace SqlSelect.Query

def addColumn (q : Query) (column : Column) : Query :=
  { q with columns := q.columns ++ [column] }

def selecting (q : Query) : Query :=
  { q with action := some .select }

/-- Selects columns by name, passing over the blank ones; with none at all every column is selected. -/
def select (q : Query) (names : List String) : Query :=
  names.foldl (fun q name => q.given (checkName .emptyColumn name) fun n => q.addColumn (.name n))
    q.selecting

/-- Selects an expression written in the placeholders of the dialect itself. -/
def selectRaw (q : Query) (text : String) (args : List Arg) : Query :=
  q.selecting.given (RawSql.checked text args) fun sql => q.selecting.addColumn (.raw sql)

/-- Selects the columns that stand behind the permitted inputs, passing over all other inputs. -/
def selectPermitted (q : Query) (inputs : List String) (permitted : List (String × String)) : Query :=
  q.select (inputs.filterMap fun input => List.lookup input permitted)

/-- Takes the rows from a table. -/
def fromTable (q : Query) (table : String) : Query :=
  q.given (checkName .emptyTable table) fun t => { q with source := some (.table t) }

def fromRaw (q : Query) (text : String) (args : List Arg) : Query :=
  q.given (RawSql.checked text args) fun sql => { q with source := some (.raw sql) }

/-- Takes the rows from the table that stands behind a permitted input. -/
def fromPermitted (q : Query) (input : String) (permitted : List (String × String)) : Query :=
  match List.lookup input permitted with
  | some table => q.fromTable table
  | none => q.reject (.tableNotPermitted input)

/-- The comparisons that a join can be made on. -/
def joinOperators : List String := ["=", "!=", "<>", "<", "<=", ">", ">="]

/-- A join is checked for its table first, then for its condition. -/
def checkJoin (kind : JoinKind) (table left op right : String) : Except Fault Join := do
  let table ← checkName .emptyTable table
  let (left, op, right) := (Text.trim left, Text.trim op, Text.trim right)
  if left.isEmpty || right.isEmpty || op ∉ joinOperators then
    .error (.joinCondition left op right)
  else
    .ok { kind, table, left, op, right }

def join (q : Query) (kind : JoinKind) (table left op right : String) : Query :=
  q.given (checkJoin kind table left op right) fun j => { q with joins := q.joins ++ [j] }

def addOrder (q : Query) (term : SortKey) : Query :=
  { q with order := q.order ++ [term] }

def orderBy (q : Query) (column : String) (direction : Direction) : Query :=
  q.given (checkName .emptyColumn column) fun c => q.addOrder (.column c direction)

def orderByRaw (q : Query) (text : String) (args : List Arg) : Query :=
  q.given (RawSql.checked text args) fun sql => q.addOrder (.raw sql)

section Nested

variable {m : Type → Type} [Monad m]

/-- The query that a function makes of a fresh SELECT, if there is a function. -/
def configuredM (q : Query) : Option (Query → m Query) → m (Option Query)
  | some configure => some <$> configure q.inner
  | none => pure none

/-- Selects a subquery; a missing function or a blank label is a fault of compilation only. -/
def selectSubqueryM (q : Query) (label : String) (configure : Option (Query → m Query)) : m Query :=
  (fun query => q.selecting.addColumn (.subquery (Text.trim label) query)) <$>
    q.configuredM configure

/-- Takes the rows from a subquery; a missing function or a blank label is a fault of compilation
only. -/
def fromSubqueryM (q : Query) (label : String) (configure : Option (Query → m Query)) : m Query :=
  (fun query => { q with source := some (.subquery (Text.trim label) query) }) <$>
    q.configuredM configure

end Nested

def selectSubquery (q : Query) (label : String) (configure : Option (Query → Query)) : Query :=
  selectSubqueryM (m := Id) q label configure

def fromSubquery (q : Query) (label : String) (configure : Option (Query → Query)) : Query :=
  fromSubqueryM (m := Id) q label configure

theorem selectSubquery_eq (q : Query) (label : String) (configure : Option (Query → Query)) :
    q.selectSubquery label configure =
      q.selecting.addColumn (.subquery (Text.trim label) (configure.map fun f => f q.inner)) := by
  cases configure <;> rfl

theorem fromSubquery_eq (q : Query) (label : String) (configure : Option (Query → Query)) :
    q.fromSubquery label configure =
      { q with
        source := some (.subquery (Text.trim label) (configure.map fun f => f q.inner)) } := by
  cases configure <;> rfl

end SqlSelect.Query
