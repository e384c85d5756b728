import SqlSelect.Placeholder.Shift
import SqlSelect.Reference
set_option autoImplicit false

/-! What databases disagree on: how names are quoted, how placeholders are written, and which clauses
are understood. A dialect is a value, so a new engine is a new value. -/
namespace SqlSelect

inductive PlaceholderStyle where
  /-- Every placeholder is a bare `?` and binds by its position. -/
  | positional
  /-- A placeholder is the marker followed by its number, counted from one. -/
  | numbered (marker : String)
  deriving DecidableEq

structure Dialect where
  name : String
  quote : Char := '"'
  placeholders : PlaceholderStyle
  supportsReturning : Bool := false
  supportsFullJoin : Bool := false
  supportsIntersect : Bool := true
  supportsExcept : Bool := true
  deriving DecidableEq

namespace Dialect

def postgres : Dialect where
  name := "postgresql"
  placeholders := .numbered "$"
  supportsReturning := true
  supportsFullJoin := true

def sqlite : Dialect where
  name := "sqlite"
  placeholders := .numbered "?"
  supportsReturning := true
  supportsFullJoin := true

/-- Standard quoting and positional placeholders, and no clause beyond the standard. -/
def generic : Dialect where
  name := "generic"
  placeholders := .positional

/-- The placeholder of the `n`th parameter. -/
def placeholder (d : Dialect) (n : Nat) : String :=
  match d.placeholders with
  | .positional => "?"
  | .numbered marker => marker ++ toString n

/-- The text with every placeholder number raised by `offset`. -/
def renumber (d : Dialect) (offset : Nat) (sql : String) : String :=
  match d.placeholders with
  | .positional => sql
  | .numbered marker => Placeholder.shift marker marker offset sql

def quoteIdentifier (d : Dialect) (name : String) : String :=
  String.ofList ((Reference.ofName name.toList).quoted d.quote)

def quoteColumn (d : Dialect) (text : String) : String :=
  String.ofList ((Reference.ofColumn text.toList).quoted d.quote)

def quoteTable (d : Dialect) (text : String) : String :=
  String.ofList ((Reference.ofTable text.toList).quoted d.quote)

theorem renumber_zero (d : Dialect) (sql : String) : d.renumber 0 sql = sql := by
  unfold renumber
  cases d.placeholders <;> simp [Placeholder.shift_zero]

example : postgres.quoteColumn "u.email as mail" = "\"u\".\"email\" AS \"mail\"" := by
  decide +kernel
example : postgres.quoteTable "public.users u" = "\"public\".\"users\" AS \"u\"" := by
  decide +kernel
example : postgres.renumber 2 "a = $1 AND b IN ($2, $10)" = "a = $3 AND b IN ($4, $12)" := by
  decide +kernel

end Dialect

end SqlSelect
