import SqlSelect.Fault
import SqlSelect.Value.Basic
set_option autoImplicit false

/-! Arguments handed to the steps that build a query: a value, or a list of arguments. Every argument
collapses into one value, a list into an array. A membership list is flattened by one level, in which lists and
array values are sequences alike. -/
namespace SqlSelect

inductive Arg where
  | value (v : Value)
  | list (items : List Arg)
  deriving Inhabited

namespace Arg

def null : Arg := .value .null

/-- Whether the argument is the null value; a list never is. -/
def isNull : Arg → Bool
  | value v => v.isNull
  | list _ => false

mutual

/-- The one value that the argument binds. -/
def toValue : Arg → Value
  | value v => v
  | list items => .array (toValues items)

def toValues : List Arg → List Value
  | [] => []
  | a :: as => toValue a :: toValues as

end

theorem toValues_eq_map (args : List Arg) : toValues args = args.map toValue := by
  induction args with
  | nil => rfl
  | cons a as ih => simp [toValues, ih]

mutual

/-- Equality up to the agreement of values; a list never agrees with an array value. -/
def agrees : Arg → Arg → Bool
  | value a, value b => a.agrees b
  | list as, list bs => allAgree as bs
  | _, _ => false

def allAgree : List Arg → List Arg → Bool
  | [], [] => true
  | a :: as, b :: bs => agrees a b && allAgree as bs
  | _, _ => false

end

/-- The argument that binds a host value. -/
def of {α : Type} [ToValue α] (a : α) : Arg :=
  value (SqlSelect.toValue a)

/-- The items of a sequence, nothing for a scalar. -/
def items? : Arg → Option (List Arg)
  | list items => some items
  | value (.array values) => some (values.map value)
  | value _ => none

/-- A scalar that is allowed as a member. -/
def member (arg : Arg) : Except Fault Value :=
  match arg with
  | value .null => .error .nullArgument
  | value (.array _) | list _ => .error .nestedList
  | value v => .ok v

/-- The members that one argument of the list stands for. -/
def members (arg : Arg) : Except Fault (List Value) :=
  match arg.items? with
  | some items => items.mapM member
  | none => (fun v => [v]) <$> arg.member

/-- The members of a list of arguments, in order; the first fault from the left decides the error. -/
def flatten (args : List Arg) : Except Fault (List Value) :=
  List.flatten <$> args.mapM members

end Arg

end SqlSelect
