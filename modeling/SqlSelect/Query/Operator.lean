import SqlSelect.Text.Blank
set_option autoImplicit false

/-! Operators of conditions as callers write them. The words of an operator count, not their case or
the white space between them. -/
namespace SqlSelect

inductive Operator where
  | between (negated : Bool)
  | membership (negated : Bool)
  | nullTest (negated : Bool)
  | existence (negated : Bool)
  /-- Any other operator, as it was written. -/
  | comparison (text : String)
  deriving DecidableEq

namespace Operator

/-- The words of an operator in upper case. -/
def canonicalWords (op : String) : List String :=
  (Text.words op).map String.toUpper

/-- The upper-case words with one space between them. -/
def canonical (op : String) : String :=
  " ".intercalate (canonicalWords op)

def ofText (op : String) : Operator :=
  match canonicalWords op with
  | ["BETWEEN"] => between false
  | ["NOT", "BETWEEN"] => between true
  | ["IN"] => membership false
  | ["NOT", "IN"] => membership true
  | ["IS", "NULL"] => nullTest false
  | ["IS", "NOT", "NULL"] => nullTest true
  | ["EXISTS"] => existence false
  | ["NOT", "EXISTS"] => existence true
  | _ => comparison (Text.trim op)

/-- Whether the operator takes a query and no column. -/
def takesNoColumn (op : String) : Bool :=
  match ofText op with
  | existence _ => true
  | _ => false

example : ofText " not  In " = membership true := by decide +kernel
example : ofText " like " = comparison "like" := by decide +kernel

end Operator

end SqlSelect
