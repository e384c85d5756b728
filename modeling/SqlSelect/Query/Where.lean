import SqlSelect.Query.Basic
import SqlSelect.Query.Operator
set_option autoImplicit false

/-! The steps that add conditions. Each one checks its input into a predicate and appends it, or notes
the fault and appends nothing. -/
namespace SqlSelect

namespace Predicate

/-- A bound of a range is a scalar. -/
def scalarBound : Arg → Except Fault Value
  | .list _ | .value (.array _) => .error (.typeMismatch .boundNotScalar)
  | .value v => .ok v

/-- The two ends of a range: two arguments, or a sequence of two. -/
def endpoints? : List Arg → Option (Arg × Arg)
  | [low, high] => some (low, high)
  | [.list [low, high]] => some (low, high)
  | [.value (.array [low, high])] => some (.value low, .value high)
  | _ => none

/-- The bounds of a range. That both are scalars is checked before that neither is null. -/
def bounds (args : List Arg) : Except Fault (Value × Value) :=
  match endpoints? args with
  | none => .error .nullArgument
  | some (low, high) => do
    let low ← scalarBound low
    let high ← scalarBound high
    if low.isNull || high.isNull then .error .nullArgument else .ok (low, high)

def ofBetween (column : String) (negated : Bool) (args : List Arg) : Except Fault Predicate := do
  let column ← checkName .emptyColumn column
  let (low, high) ← bounds args
  return .between column negated low high

def ofMembership (column : String) (negated : Bool) (args : List Arg) :
    Except Fault Predicate := do
  let column ← checkName .emptyColumn column
  let members ← Arg.flatten args
  return .membership column negated members

def ofNullTest (column : String) (negated : Bool) : Except Fault Predicate := do
  let column ← checkName .emptyColumn column
  return .nullTest column negated

/-- The one value that the arguments of a comparison bind. -/
def comparand : List Arg → Value
  | [] => .null
  | [arg] => arg.toValue
  | args => (Arg.list args).toValue

def ofComparison (column op : String) (args : List Arg) : Except Fault Predicate := do
  let column ← checkName .emptyColumn column
  return .comparison column op (comparand args)

/-- The predicate that an operator makes of a column and arguments. -/
def ofOperator (column : String) (op : Operator) (args : List Arg) : Except Fault Predicate :=
  match op with
  | .between negated => ofBetween column negated args
  | .membership negated => ofMembership column negated args
  | .nullTest negated => ofNullTest column negated
  | .existence _ => .error .missingSubquery
  | .comparison text => ofComparison column text args

end Predicate

namespace Query

def addPredicate (q : Query) (link : Link) (p : Predicate) : Query :=
  { q with conditions := q.conditions ++ [⟨link, p⟩] }

def addChecked (q : Query) (link : Link) (p : Except Fault Predicate) : Query :=
  q.given p (q.addPredicate link)

/-- The operator decides what the arguments mean. -/
def whereOp (q : Query) (link : Link) (column op : String) (args : List Arg) : Query :=
  q.addChecked link (Predicate.ofOperator column (Operator.ofText op) args)

def whereBetween (q : Query) (link : Link) (negated : Bool) (column : String)
    (low high : Arg) : Query :=
  q.addChecked link (Predicate.ofBetween column negated [low, high])

def whereIn (q : Query) (link : Link) (negated : Bool) (column : String)
    (args : List Arg) : Query :=
  q.addChecked link (Predicate.ofMembership column negated args)

def whereNull (q : Query) (link : Link) (negated : Bool) (column : String) : Query :=
  q.addChecked link (Predicate.ofNullTest column negated)

/-- A template is taken unseen; its markers are counted when it is compiled. -/
def whereRaw (q : Query) (link : Link) (text : String) (args : List Arg) : Query :=
  q.addPredicate link (.raw (.ofArgs text args))

/-- Takes over the fault and the conditions of a group; a group without conditions is dropped. -/
def addGroup (q : Query) (link : Link) (group : Query) : Query :=
  let q := match group.fault with
    | some e => q.reject e
    | none => q
  if group.conditions.isEmpty then q else q.addPredicate link (.group group.conditions)

/-- The column and the operator in front of a subquery. -/
def subqueryHead (column op : String) : Except Fault (String × String) :=
  if (Text.trim column).isEmpty && !Operator.takesNoColumn op then .error .emptyColumn
  else .ok (Text.trim column, Operator.canonical op)

section Nested

variable {m : Type → Type} [Monad m]

def whereGroupM (q : Query) (link : Link) (configure : Query → m Query) : m Query :=
  q.addGroup link <$> configure q.scope

/-- The function runs only if the column and the operator pass. -/
def whereSubqueryM (q : Query) (link : Link) (column op : String)
    (configure : Option (Query → m Query)) : m Query :=
  match configure, subqueryHead column op with
  | none, _ => pure (q.reject .missingSubquery)
  | some _, .error e => pure (q.reject e)
  | some configure, .ok (column, op) =>
    (fun query => q.addPredicate link (.subquery column op query)) <$> configure q.inner

def whereExistsM (q : Query) (link : Link) (negated : Bool) (configure : Query → m Query) :
    m Query :=
  q.whereSubqueryM link "" (if negated then "NOT EXISTS" else "EXISTS") (some configure)

end Nested

def whereGroup (q : Query) (link : Link) (configure : Query → Query) : Query :=
  whereGroupM (m := Id) q link configure

def whereSubquery (q : Query) (link : Link) (column op : String)
    (configure : Option (Query → Query)) : Query :=
  whereSubqueryM (m := Id) q link column op configure

def whereExists (q : Query) (link : Link) (negated : Bool) (configure : Query → Query) :
    Query :=
  whereExistsM (m := Id) q link negated configure

theorem whereGroup_eq (q : Query) (link : Link) (configure : Query → Query) :
    q.whereGroup link configure = q.addGroup link (configure q.scope) := rfl

theorem whereSubquery_none (q : Query) (link : Link) (column op : String) :
    q.whereSubquery link column op none = q.reject .missingSubquery := rfl

theorem whereSubquery_some (q : Query) (link : Link) (column op : String)
    (configure : Query → Query) :
    q.whereSubquery link column op (some configure) =
      q.given (subqueryHead column op) fun head =>
        q.addPredicate link (.subquery head.1 head.2 (configure q.inner)) := by
  unfold whereSubquery whereSubqueryM
  cases subqueryHead column op <;> rfl

end Query

end SqlSelect
