import SqlSelect.Query.Clause
import SqlSelect.Query.Where
set_option autoImplicit false

/-! Chains of steps as data. A step that configures a nested query carries the chain that does so. -/
namespace SqlSelect

inductive Call where
  | dialect (d : Dialect)
  | select (names : List String)
  | selectRaw (text : String) (args : List Arg)
  | selectSubquery (label : String) (chain : Option (List Call))
  | selectPermitted (inputs : List String) (permitted : List (String × String))
  | fromTable (table : String)
  | fromRaw (text : String) (args : List Arg)
  | fromSubquery (label : String) (chain : Option (List Call))
  | fromPermitted (input : String) (permitted : List (String × String))
  | join (kind : JoinKind) (table left op right : String)
  | orderBy (column : String) (direction : Direction)
  | orderByRaw (text : String) (args : List Arg)
  | limit (n : Nat)
  | offset (n : Nat)
  | whereOp (link : Link) (column op : String) (args : List Arg)
  | whereBetween (link : Link) (negated : Bool) (column : String) (low high : Arg)
  | whereIn (link : Link) (negated : Bool) (column : String) (args : List Arg)
  | whereNull (link : Link) (negated : Bool) (column : String)
  | whereRaw (link : Link) (text : String) (args : List Arg)
  | whereGroup (link : Link) (chain : List Call)
  | whereSubquery (link : Link) (column op : String) (chain : Option (List Call))

namespace Call

mutual

/-- The query after one step. -/
def apply (q : Query) : Call → Query
  | dialect d => q.withDialect d
  | select names => q.select names
  | selectRaw text args => q.selectRaw text args
  | selectSubquery label chain => q.selectSubquery label (configuration chain)
  | selectPermitted inputs permitted => q.selectPermitted inputs permitted
  | fromTable table => q.fromTable table
  | fromRaw text args => q.fromRaw text args
  | fromSubquery label chain => q.fromSubquery label (configuration chain)
  | fromPermitted input permitted => q.fromPermitted input permitted
  | join kind table left op right => q.join kind table left op right
  | orderBy column direction => q.orderBy column direction
  | orderByRaw text args => q.orderByRaw text args
  | limit n => q.withLimit n
  | offset n => q.withOffset n
  | whereOp link column op args => q.whereOp link column op args
  | whereBetween link negated column low high => q.whereBetween link negated column low high
  | whereIn link negated column args => q.whereIn link negated column args
  | whereNull link negated column => q.whereNull link negated column
  | whereRaw link text args => q.whereRaw link text args
  | whereGroup link chain => q.whereGroup link fun inner => applyAll inner chain
  | whereSubquery link column op chain => q.whereSubquery link column op (configuration chain)

/-- The query after a chain of steps. -/
def applyAll (q : Query) : List Call → Query
  | [] => q
  | call :: chain => applyAll (apply q call) chain

/-- A chain as the function that it stands for. -/
def configuration : Option (List Call) → Option (Query → Query)
  | none => none
  | some chain => some fun q => applyAll q chain

end

theorem applyAll_append (q : Query) (chain more : List Call) :
    applyAll q (chain ++ more) = applyAll (applyAll q chain) more := by
  induction chain generalizing q with
  | nil => simp [applyAll]
  | cons call chain ih => simp [applyAll, ih]

end Call

end SqlSelect
