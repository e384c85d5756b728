import SqlSelect.Emitter.Subquery
set_option autoImplicit false

/-! A query turned into a statement: SQL text and the values that its placeholders bind. The clauses come in
their fixed order, every value is bound where its placeholder is written, and a subquery is written on its own
before it takes its place. -/
namespace SqlSelect

open Emitter

/-- A negatable keyword. -/
def negatable (negated : Bool) (keyword : String) : String :=
  if negated then "NOT " ++ keyword else keyword

def Join.emitter (d : Dialect) (j : Join) : Emitter :=
  if j.kind = .full && !d.supportsFullJoin then fail .fullJoinUnsupported
  else
    text (j.kind.keyword ++ " " ++ d.quoteTable j.table ++ " ON " ++ d.quoteIdentifier j.left ++ " " ++
      j.op ++ " " ++ d.quoteIdentifier j.right)

def SortKey.emitter (d : Dialect) : SortKey → Emitter
  | column name direction => text (d.quoteIdentifier name ++ " " ++ direction.keyword)
  | raw sql => template d sql

/-- The members of a list, or for none a condition that is always false, negated always true. -/
def membershipEmitter (d : Dialect) (column : String) (negated : Bool) (members : List Value) :
    Emitter :=
  if members.isEmpty then text (if negated then "1 = 1" else "1 = 0")
  else
    text (d.quoteIdentifier column ++ " " ++ negatable negated "IN" ++ " (") ++
      joined ", " (members.map (parameter d)) ++ text ")"

/-- What stands in front of a subquery in a condition. -/
def subqueryHeadText (d : Dialect) (column op : String) : String :=
  (if column.isEmpty then "" else d.quoteIdentifier column ++ " ") ++ op ++ " ("

def columnsClause (columns : List Emitter) : Emitter :=
  if columns.isEmpty then text "*" else joined ", " columns

def joinsClause (d : Dialect) (joins : List Join) : Emitter :=
  joined "" (joins.map fun j => text " " ++ j.emitter d)

def whereClause (conditions : List (Link × Emitter)) : Emitter :=
  if conditions.isEmpty then empty else text " WHERE " ++ linked conditions

def orderClause (d : Dialect) (order : List SortKey) : Emitter :=
  if order.isEmpty then empty
  else text " ORDER BY " ++ joined ", " (order.map (SortKey.emitter d))

def numberClause (keyword : String) : Option Nat → Emitter
  | none => empty
  | some n => text (keyword ++ toString n)

mutual

/-- The emitter of a query whose subqueries take their places by `embed`. -/
def Query.emitterVia (d : Dialect) (embed : Embedding) : Query → Emitter
  | ⟨_, _, columns, source, joins, conditions, order, limit, offset, _⟩ =>
    text "SELECT " ++ columnsClause (columnEmitters d embed columns) ++ text " FROM " ++
      sourceEmitter d embed source ++ joinsClause d joins ++
      whereClause (conditionEmitters d embed conditions) ++ orderClause d order ++
      numberClause " LIMIT " limit ++ numberClause " OFFSET " offset

def columnEmitters (d : Dialect) (embed : Embedding) : List Column → List Emitter
  | [] => []
  | c :: rest => c.emitterVia d embed :: columnEmitters d embed rest

def Column.emitterVia (d : Dialect) (embed : Embedding) : Column → Emitter
  | .name name => text (d.quoteColumn name)
  | .raw sql => verbatim sql
  | .subquery label query => labelled d label (subqueryEmitter d embed query)

def subqueryEmitter (d : Dialect) (embed : Embedding) : Option Query → Option Emitter
  | none => none
  | some query => some (embed query.ready (query.emitterVia d embed))

def sourceEmitter (d : Dialect) (embed : Embedding) : Option Source → Emitter
  | none => fail .emptyTable
  | some source => source.emitterVia d embed

def Source.emitterVia (d : Dialect) (embed : Embedding) : Source → Emitter
  | .table name =>
    if (Text.trim name).isEmpty then fail .emptyTable else text (d.quoteTable name)
  | .raw sql => if (Text.trim sql.text).isEmpty then fail .emptyExpression else template d sql
  | .subquery label query => labelled d label (subqueryEmitter d embed query)

def conditionEmitters (d : Dialect) (embed : Embedding) : List Condition → List (Link × Emitter)
  | [] => []
  | ⟨link, predicate⟩ :: rest =>
    (link, predicate.emitterVia d embed) :: conditionEmitters d embed rest

def Predicate.emitterVia (d : Dialect) (embed : Embedding) : Predicate → Emitter
  | .comparison column op value =>
    text (d.quoteIdentifier column ++ " " ++ op ++ " ") ++ parameter d value
  | .between column negated low high =>
    text (d.quoteIdentifier column ++ " " ++ negatable negated "BETWEEN" ++ " ") ++ parameter d low ++
      text " AND " ++ parameter d high
  | .membership column negated members => membershipEmitter d column negated members
  | .nullTest column negated =>
    text (d.quoteIdentifier column ++ (if negated then " IS NOT NULL" else " IS NULL"))
  | .raw sql => template d sql
  | .group conditions => text "(" ++ linked (conditionEmitters d embed conditions) ++ text ")"
  | .subquery column op query =>
    text (subqueryHeadText d column op) ++ embed query.ready (query.emitterVia d embed) ++ text ")"

end

theorem columnEmitters_eq_map (d : Dialect) (embed : Embedding) (columns : List Column) :
    columnEmitters d embed columns = columns.map (Column.emitterVia d embed) := by
  induction columns with
  | nil => rfl
  | cons c columns ih => simp [columnEmitters, ih]

theorem conditionEmitters_eq_map (d : Dialect) (embed : Embedding) (conditions : List Condition) :
    conditionEmitters d embed conditions =
      conditions.map fun c => (c.link, c.predicate.emitterVia d embed) := by
  induction conditions with
  | nil => rfl
  | cons c conditions ih =>
    obtain ⟨link, predicate⟩ := c
    simp [conditionEmitters, ih]

theorem Query.emitterVia_eq (d : Dialect) (embed : Embedding) (q : Query) :
    q.emitterVia d embed =
      text "SELECT " ++ columnsClause (q.columns.map (Column.emitterVia d embed)) ++ text " FROM " ++
        sourceEmitter d embed q.source ++ joinsClause d q.joins ++
        whereClause (q.conditions.map fun c => (c.link, c.predicate.emitterVia d embed)) ++
        orderClause d q.order ++ numberClause " LIMIT " q.limit ++
        numberClause " OFFSET " q.offset := by
  cases q
  simp only [Query.emitterVia, columnEmitters_eq_map, conditionEmitters_eq_map]

/-- The emitter of a query, with every subquery written on its own and renumbered. -/
def Query.emitter (d : Dialect) (q : Query) : Emitter :=
  q.emitterVia d (embedded d)

namespace Query

/-- Writes a query in a dialect, whatever its own dialect, action and noted fault are. -/
def compile (d : Dialect) (q : Query) : Except Fault Fragment :=
  (q.emitter d).run 0

/-- Writes a query in its own dialect. A noted fault is reported first, then a missing dialect, then
a missing action. -/
def build (q : Query) : Except Fault Fragment :=
  match q.fault, q.dialect with
  | some e, _ => .error e
  | none, none => .error .noDialect
  | none, some d => do
    q.ready
    q.compile d

end Query

end SqlSelect
