set_option autoImplicit false

/-! What can go wrong while a query is assembled or compiled, one constructor per cause, and the one
place where each cause is put into words. -/
namespace SqlSelect

/-- A value of a shape that cannot be bound where it stands. -/
inductive Mismatch where
  /-- An integer above the largest signed 64-bit one. -/
  | integerTooLarge (n : UInt64)
  | jsonObject
  | boundNotScalar
  deriving DecidableEq, Inhabited

inductive Fault where
  | emptyColumn
  | emptyTable
  | emptyExpression
  | emptyAlias
  /-- A null in a membership list or as a bound of a range. -/
  | nullArgument
  /-- A list inside a list inside a membership list. -/
  | nestedList
  | missingSubquery
  | joinCondition (left op right : String)
  | tableNotPermitted (input : String)
  | typeMismatch (cause : Mismatch)
  | noDialect
  | noAction
  /-- A template has another number of markers than of arguments. -/
  | argumentCount (markers arguments : Nat)
  | fullJoinUnsupported
  deriving DecidableEq, Inhabited

def Mismatch.message : Mismatch → String
  | integerTooLarge n => "integer " ++ toString n.toNat ++ " exceeds i64"
  | jsonObject => "JSON objects cannot be bound as arguments"
  | boundNotScalar => "BETWEEN bounds must be scalar values"

def Fault.message : Fault → String
  | emptyColumn => "column name must not be empty"
  | emptyTable => "table name must not be empty"
  | emptyExpression => "raw expression must not be empty"
  | emptyAlias => "subquery alias must not be empty"
  | nullArgument => "null value not allowed in argument list"
  | nestedList => "nested argument lists are not allowed"
  | missingSubquery => "subquery configuration function is missing"
  | joinCondition left op right => "invalid join condition: " ++ left ++ " " ++ op ++ " " ++ right
  | tableNotPermitted input => "table input not permitted: " ++ input
  | typeMismatch cause => "type mismatch: " ++ cause.message
  | noDialect => "no dialect configured"
  | noAction => "unsupported action: none"
  | argumentCount markers arguments =>
    "raw expression has " ++ toString markers ++ " placeholder(s) but " ++ toString arguments ++
      " argument(s)"
  | fullJoinUnsupported => "dialect does not support FULL JOIN"

end SqlSelect
