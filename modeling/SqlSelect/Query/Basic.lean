import SqlSelect.Arg.Basic
import SqlSelect.Fault
import SqlSelect.Dialect.Basic
set_option autoImplicit false

/-! A SELECT statement under construction. Statements nest: as a selected column, as the source of
rows, and as a condition; so their parts are declared together. -/
namespace SqlSelect

/-- What a query compiles to. -/
inductive Action where
  | select
  deriving DecidableEq, Inhabited

def Action.name : Action → String
  | select => "select"

/-- How a condition is linked to the one before it. -/
inductive Link where
  | and
  | or
  deriving DecidableEq, Inhabited

def Link.keyword : Link → String
  | and => "AND"
  | or => "OR"

inductive Direction where
  | asc
  | desc
  deriving DecidableEq, Inhabited

def Direction.keyword : Direction → String
  | asc => "ASC"
  | desc => "DESC"

/-- Anything but DESC, in any case, is ascending. -/
def Direction.parse (text : String) : Direction :=
  if (Text.trim text).toUpper = "DESC" then .desc else .asc

inductive JoinKind where
  | inner
  | left
  | right
  | full
  deriving DecidableEq, Inhabited

def JoinKind.keyword : JoinKind → String
  | inner => "INNER JOIN"
  | left => "LEFT JOIN"
  | right => "RIGHT JOIN"
  | full => "FULL JOIN"

/-- A table joined on the comparison of two columns. -/
structure Join where
  kind : JoinKind
  table : String
  left : String
  op : String
  right : String
  deriving DecidableEq

/-- SQL text of the caller's own and the values that go with it. -/
structure RawSql where
  text : String
  args : List Value

inductive SortKey where
  | column (name : String) (direction : Direction)
  | raw (sql : RawSql)

mutual

structure Query where
  dialect : Option Dialect
  action : Option Action
  columns : List Column
  source : Option Source
  joins : List Join
  conditions : List Condition
  order : List SortKey
  limit : Option Nat
  offset : Option Nat
  /-- The first fault of the construction. -/
  fault : Option Fault

/-- An entry of the SELECT list. -/
inductive Column where
  | name (text : String)
  /-- Written as it is; its values are bound by placeholders that the text already holds. -/
  | raw (sql : RawSql)
  /-- No query when nothing was given to configure it. -/
  | subquery (label : String) (query : Option Query)

/-- What the rows are taken from. -/
inductive Source where
  | table (text : String)
  | raw (sql : RawSql)
  | subquery (label : String) (query : Option Query)

inductive Predicate where
  | comparison (column op : String) (value : Value)
  | between (column : String) (negated : Bool) (low high : Value)
  | membership (column : String) (negated : Bool) (members : List Value)
  | nullTest (column : String) (negated : Bool)
  | raw (sql : RawSql)
  | group (conditions : List Condition)
  /-- The column is empty when the operator takes a query alone. -/
  | subquery (column op : String) (query : Query)

/-- A predicate and its link to the one before it. -/
structure Condition where
  link : Link
  predicate : Predicate

end

namespace Query

def empty : Query where
  dialect := none
  action := none
  columns := []
  source := none
  joins := []
  conditions := []
  order := []
  limit := none
  offset := none
  fault := none

instance : Inhabited Query := ⟨empty⟩

def withDialect (q : Query) (d : Dialect) : Query :=
  { q with dialect := some d }

def withLimit (q : Query) (n : Nat) : Query :=
  { q with limit := some n }

def withOffset (q : Query) (n : Nat) : Query :=
  { q with offset := some n }

/-- An empty query in the same dialect, for a group of conditions. -/
def scope (q : Query) : Query :=
  { empty with dialect := q.dialect }

/-- An empty SELECT in the same dialect, for a subquery. -/
def inner (q : Query) : Query :=
  { q.scope with action := some .select }

/-- Notes a fault; only the first one is kept. -/
def reject (q : Query) (e : Fault) : Query :=
  { q with fault := q.fault.or (some e) }

/-- A query can be embedded when its construction went well and it is a SELECT. -/
def ready (q : Query) : Except Fault Unit :=
  match q.fault, q.action with
  | some e, _ => .error e
  | none, some .select => .ok ()
  | none, none => .error .noAction

/-- Goes on with an input that passed its check, or notes why it did not. -/
def given {α : Type} (q : Query) (input : Except Fault α) (step : α → Query) : Query :=
  match input with
  | .ok a => step a
  | .error e => q.reject e

end Query

/-- A name without the white space around it; a blank one is the given fault. -/
def checkName (fault : Fault) (text : String) : Except Fault String :=
  if (Text.trim text).isEmpty then .error fault else .ok (Text.trim text)

theorem checkName_of_blank (fault : Fault) {text : String} (blank : Text.trim text = "") :
    checkName fault text = .error fault :=
  if_pos (String.isEmpty_iff.2 blank)

theorem checkName_of_written (fault : Fault) {text : String} (written : Text.trim text ≠ "") :
    checkName fault text = .ok (Text.trim text) :=
  if_neg fun none => written (String.isEmpty_iff.1 none)

namespace RawSql

def ofArgs (text : String) (args : List Arg) : RawSql :=
  ⟨text, Arg.toValues args⟩

/-- Refuses a blank text; any other is kept as it is. -/
def checked (text : String) (args : List Arg) : Except Fault RawSql :=
  (fun _ => ofArgs text args) <$> checkName .emptyExpression text

end RawSql

end SqlSelect
