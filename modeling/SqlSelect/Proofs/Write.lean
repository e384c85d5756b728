import SqlSelect.Proofs.Chain
set_option autoImplicit false

/-! What a step does to a query, as data: it writes into the clause that it is for, and it may note a fault.
What it writes depends on the query through the dialect alone, and the fault on nothing but the step. -/
namespace SqlSelect

/-- The clauses of a query, one for each kind of step. -/
inductive Clause where
  | dialect
  | columns
  | source
  | joins
  | conditions
  | order
  | limit
  | offset
  deriving DecidableEq

/-- One thing that is put into a query. -/
inductive Write where
  | dialect (d : Dialect)
  /-- Makes the query a SELECT. -/
  | action
  | column (c : Column)
  | source (s : Source)
  | join (j : Join)
  | condition (c : Condition)
  | order (k : SortKey)
  | limit (n : Nat)
  | offset (n : Nat)

/-- The clause that is written into. What makes a query a SELECT goes with the columns. -/
def Write.clause : Write → Clause
  | dialect _ => .dialect
  | action | column _ => .columns
  | source _ => .source
  | join _ => .joins
  | condition _ => .conditions
  | order _ => .order
  | limit _ => .limit
  | offset _ => .offset

namespace Query

def put (q : Query) : Write → Query
  | .dialect d => q.withDialect d
  | .action => q.selecting
  | .column c => q.addColumn c
  | .source s => { q with source := some s }
  | .join j => { q with joins := q.joins ++ [j] }
  | .condition c => q.addPredicate c.link c.predicate
  | .order k => q.addOrder k
  | .limit n => q.withLimit n
  | .offset n => q.withOffset n

/-- The query with a fault noted, if there is one and none was noted before. -/
def noting (q : Query) (fault : Option Fault) : Query :=
  { q with fault := q.fault.or fault }

@[simp] theorem noting_none (q : Query) : q.noting none = q := by
  cases q
  simp only [noting, Option.or_none]

theorem noting_noting (q : Query) (first second : Option Fault) :
    (q.noting first).noting second = q.noting (first.or second) := by
  simp only [noting, Option.or_assoc]

/-- Nothing that is put into a query depends on its fault or changes it. -/
theorem put_fault (q : Query) (fault : Option Fault) (w : Write) :
    put { q with fault := fault } w = { q.put w with fault := fault } := by
  cases w <;> rfl

theorem foldl_put_fault (ws : List Write) (q : Query) (fault : Option Fault) :
    ws.foldl put { q with fault := fault } = { ws.foldl put q with fault := fault } := by
  induction ws generalizing q with
  | nil => rfl
  | cons w ws ih => simp only [List.foldl_cons, put_fault, ih]

theorem fault_put (q : Query) (w : Write) : (q.put w).fault = q.fault := by
  cases w <;> rfl

theorem fault_foldl_put (ws : List Write) (q : Query) : (ws.foldl put q).fault = q.fault :=
  List.foldlRecOn ws put (motive := fun p => p.fault = q.fault) rfl
    fun p same w _ => (fault_put p w).trans same

theorem foldl_put_noting (ws : List Write) (q : Query) (fault : Option Fault) :
    ws.foldl put (q.noting fault) = (ws.foldl put q).noting fault := by
  simp only [noting, foldl_put_fault, fault_foldl_put]

end Query

/-- What is written of an input that is checked first. -/
def accepted {α : Type} (write : α → Write) : Except Fault α → List Write
  | .ok a => [write a]
  | .error _ => []

/-- Why an input is refused, if it is. -/
def refusal {α : Type} : Except Fault α → Option Fault
  | .ok _ => none
  | .error e => some e

theorem Query.given_eq {α : Type} {q : Query} (input : Except Fault α) {step : α → Query}
    {w : α → Write} (each : ∀ a, step a = q.put (w a)) :
    q.given input step = ((accepted w input).foldl put q).noting (refusal input) := by
  cases input with
  | error e => rfl
  | ok a => exact (each a).trans (noting_none _).symm

/-- The fault of a group is noted before its conditions are taken over, which makes no difference. -/
theorem Query.addGroup_eq (q : Query) (link : Link) (group : Query) :
    q.addGroup link group =
      ((if group.conditions.isEmpty then []
        else [.condition ⟨link, .group group.conditions⟩]).foldl put q).noting group.fault := by
  unfold addGroup
  cases group.fault with
  | none =>
    rw [noting_none]
    by_cases bare : group.conditions.isEmpty
    · simp only [bare, if_true, List.foldl_nil]
    · simp only [bare, if_false, Bool.false_eq_true, List.foldl_cons, List.foldl_nil, put]
  | some e =>
    by_cases bare : group.conditions.isEmpty
    · simp only [bare, if_true, List.foldl_nil]
      rfl
    · simp only [bare, if_false, Bool.false_eq_true, List.foldl_cons, List.foldl_nil, put]
      rfl

namespace Call

/-- The clause that a step is for. -/
def clause : Call → Clause
  | dialect _ => .dialect
  | select _ | selectRaw _ _ | selectSubquery _ _ | selectPermitted _ _ => .columns
  | fromTable _ | fromRaw _ _ | fromSubquery _ _ | fromPermitted _ _ => .source
  | join _ _ _ _ _ => .joins
  | whereOp _ _ _ _ | whereBetween _ _ _ _ _ | whereIn _ _ _ _ | whereNull _ _ _ | whereRaw _ _ _
  | whereGroup _ _ | whereSubquery _ _ _ _ => .conditions
  | orderBy _ _ | orderByRaw _ _ => .order
  | limit _ => .limit
  | offset _ => .offset

/-- The names of the columns that stand behind the permitted inputs. -/
def permittedNames (inputs : List String) (permitted : List (String × String)) : List String :=
  inputs.filterMap fun input => List.lookup input permitted

/-- The table that stands behind a permitted input. -/
def permittedTable (input : String) (permitted : List (String × String)) : Except Fault String :=
  match List.lookup input permitted with
  | some table => checkName .emptyTable table
  | none => .error (.tableNotPermitted input)

def nameWrites (names : List String) : List Write :=
  names.flatMap fun name => accepted (fun n => .column (.name n)) (checkName .emptyColumn name)

def nameFailure (names : List String) : Option Fault :=
  names.findSome? fun name => refusal (checkName .emptyColumn name)

/-- What a subquery is in a query of the given dialect. -/
def subquery (d : Option Dialect) (chain : List Call) : Query :=
  applyAll { Query.empty with dialect := d, action := some .select } chain

/-- The conditions of a group in a query of the given dialect. -/
def groupConditions (d : Option Dialect) (chain : List Call) : List Condition :=
  (applyAll { Query.empty with dialect := d } chain).conditions

/-- What a step writes into a query of the given dialect. -/
def writes (d : Option Dialect) : Call → List Write
  | dialect d => [.dialect d]
  | select names => .action :: nameWrites names
  | selectRaw text args => .action :: accepted (fun sql => .column (.raw sql)) (RawSql.checked text args)
  | selectSubquery label chain =>
    [.action, .column (.subquery (Text.trim label) (chain.map (subquery d)))]
  | selectPermitted inputs permitted => .action :: nameWrites (permittedNames inputs permitted)
  | fromTable table => accepted (fun t => .source (.table t)) (checkName .emptyTable table)
  | fromRaw text args => accepted (fun sql => .source (.raw sql)) (RawSql.checked text args)
  | fromSubquery label chain => [.source (.subquery (Text.trim label) (chain.map (subquery d)))]
  | fromPermitted input permitted =>
    accepted (fun t => .source (.table t)) (permittedTable input permitted)
  | join kind table left op right => accepted .join (Query.checkJoin kind table left op right)
  | orderBy column direction =>
    accepted (fun c => .order (.column c direction)) (checkName .emptyColumn column)
  | orderByRaw text args => accepted (fun sql => .order (.raw sql)) (RawSql.checked text args)
  | limit n => [.limit n]
  | offset n => [.offset n]
  | whereOp link column op args =>
    accepted (fun p => .condition ⟨link, p⟩)
      (Predicate.ofOperator column (Operator.ofText op) args)
  | whereBetween link negated column low high =>
    accepted (fun p => .condition ⟨link, p⟩) (Predicate.ofBetween column negated [low, high])
  | whereIn link negated column args =>
    accepted (fun p => .condition ⟨link, p⟩) (Predicate.ofMembership column negated args)
  | whereNull link negated column =>
    accepted (fun p => .condition ⟨link, p⟩) (Predicate.ofNullTest column negated)
  | whereRaw link text args => [.condition ⟨link, .raw (.ofArgs text args)⟩]
  | whereGroup link chain =>
    if (groupConditions d chain).isEmpty then []
    else [.condition ⟨link, .group (groupConditions d chain)⟩]
  | whereSubquery _ _ _ none => []
  | whereSubquery link column op (some chain) =>
    accepted (fun head => .condition ⟨link, .subquery head.1 head.2 (subquery d chain)⟩)
      (Query.subqueryHead column op)

mutual

/-- Why a step fails, if it does: its own check refuses the input, or it is a group and a step inside of it
fails. What fails inside of a subquery is not a failure of the step. -/
def failure : Call → Option Fault
  | select names => nameFailure names
  | selectPermitted inputs permitted => nameFailure (permittedNames inputs permitted)
  | fromTable table => refusal (checkName .emptyTable table)
  | fromPermitted input permitted => refusal (permittedTable input permitted)
  | selectRaw text args | fromRaw text args | orderByRaw text args =>
    refusal (RawSql.checked text args)
  | join kind table left op right => refusal (Query.checkJoin kind table left op right)
  | orderBy column _ => refusal (checkName .emptyColumn column)
  | whereOp _ column op args => refusal (Predicate.ofOperator column (Operator.ofText op) args)
  | whereBetween _ negated column low high =>
    refusal (Predicate.ofBetween column negated [low, high])
  | whereIn _ negated column args => refusal (Predicate.ofMembership column negated args)
  | whereNull _ negated column => refusal (Predicate.ofNullTest column negated)
  | whereGroup _ chain => firstFailure chain
  | whereSubquery _ _ _ none => some .missingSubquery
  | whereSubquery _ column op (some _) => refusal (Query.subqueryHead column op)
  | dialect _ | selectSubquery _ _ | fromSubquery _ _ | limit _ | offset _ | whereRaw _ _ _ => none

/-- The failure of the first step that fails. -/
def firstFailure : List Call → Option Fault
  | [] => none
  | c :: chain => (failure c).or (firstFailure chain)

end

theorem foldl_names_eq (names : List String) (q : Query) :
    names.foldl (fun q name => q.given (checkName .emptyColumn name) fun n => q.addColumn (.name n)) q =
      ((nameWrites names).foldl Query.put q).noting (nameFailure names) := by
  induction names generalizing q with
  | nil => exact (Query.noting_none q).symm
  | cons name names ih =>
    have first : q.given (checkName .emptyColumn name) (fun n => q.addColumn (.name n)) = _ :=
      Query.given_eq (w := fun n => .column (.name n)) _ fun _ => rfl
    have failed : nameFailure (name :: names) =
        (refusal (checkName .emptyColumn name)).or (nameFailure names) := by
      simp only [nameFailure, List.findSome?_cons]
      cases refusal (checkName .emptyColumn name) <;> rfl
    have written : nameWrites (name :: names) =
        accepted (fun n => .column (.name n)) (checkName .emptyColumn name) ++ nameWrites names := by
      simp only [nameWrites, List.flatMap_cons]
    rw [List.foldl_cons, first, ih, Query.foldl_put_noting, Query.noting_noting, failed, written,
      List.foldl_append]

theorem select_eq (names : List String) (q : Query) :
    q.select names = ((.action :: nameWrites names).foldl Query.put q).noting (nameFailure names) :=
  foldl_names_eq names q.selecting

/-- The law of a step: it writes what it has to write, and notes its failure. Of a chain that it carries,
only the fault is of account here. -/
theorem apply_eq_of_carried (c : Call)
    (carried : ∀ chain ∈ c.chain?, ∀ p : Query,
      (applyAll p chain).fault = p.fault.or (firstFailure chain)) (q : Query) :
    apply q c = ((c.writes q.dialect).foldl Query.put q).noting c.failure := by
  cases c with
  | dialect d => exact (Query.noting_none _).symm
  | select names => exact select_eq names q
  | selectRaw text args =>
    rw [apply, failure, writes, Query.selectRaw, List.foldl_cons, Query.put]
    exact Query.given_eq _ fun _ => rfl
  | selectSubquery label chain =>
    rw [apply, Query.selectSubquery_eq]
    cases chain <;> exact (Query.noting_none _).symm
  | selectPermitted inputs permitted => exact select_eq (permittedNames inputs permitted) q
  | fromTable table =>
    rw [apply, failure, writes, Query.fromTable]
    exact Query.given_eq _ fun _ => rfl
  | fromRaw text args =>
    rw [apply, failure, writes, Query.fromRaw]
    exact Query.given_eq _ fun _ => rfl
  | fromSubquery label chain =>
    rw [apply, Query.fromSubquery_eq]
    cases chain <;> exact (Query.noting_none _).symm
  | fromPermitted input permitted =>
    rw [apply, Query.fromPermitted, writes, failure, permittedTable]
    cases List.lookup input permitted with
    | none => rfl
    | some table =>
      simp only [Query.fromTable]
      exact Query.given_eq _ fun _ => rfl
  | join kind table left op right =>
    rw [apply, failure, writes, Query.join]
    exact Query.given_eq _ fun _ => rfl
  | orderBy column direction =>
    rw [apply, failure, writes, Query.orderBy]
    exact Query.given_eq _ fun _ => rfl
  | orderByRaw text args =>
    rw [apply, failure, writes, Query.orderByRaw]
    exact Query.given_eq _ fun _ => rfl
  | limit n => exact (Query.noting_none _).symm
  | offset n => exact (Query.noting_none _).symm
  | whereOp link column op args =>
    rw [apply, failure, writes, Query.whereOp, Query.addChecked]
    exact Query.given_eq _ fun _ => rfl
  | whereBetween link negated column low high =>
    rw [apply, failure, writes, Query.whereBetween, Query.addChecked]
    exact Query.given_eq _ fun _ => rfl
  | whereIn link negated column args =>
    rw [apply, failure, writes, Query.whereIn, Query.addChecked]
    exact Query.given_eq _ fun _ => rfl
  | whereNull link negated column =>
    rw [apply, failure, writes, Query.whereNull, Query.addChecked]
    exact Query.given_eq _ fun _ => rfl
  | whereRaw link text args => exact (Query.noting_none _).symm
  | whereGroup link chain =>
    have fault : (applyAll q.scope chain).fault = firstFailure chain := carried chain rfl q.scope
    rw [apply, Query.whereGroup_eq, Query.addGroup_eq, fault]
    rfl
  | whereSubquery link column op chain =>
    cases chain with
    | none => rfl
    | some chain =>
      rw [apply, configuration, Query.whereSubquery_some, writes, failure]
      exact Query.given_eq _ fun _ => rfl

/-- Whatever happens in a chain, the fault is the one that was there, or else the first failure. -/
theorem fault_applyAll (chain : List Call) (q : Query) :
    (applyAll q chain).fault = q.fault.or (firstFailure chain) := by
  refine chain_induction
    (C := fun c => ∀ q, apply q c = ((c.writes q.dialect).foldl Query.put q).noting c.failure)
    (L := fun chain => ∀ q, (applyAll q chain).fault = q.fault.or (firstFailure chain))
    apply_eq_of_carried ?nil ?cons chain q
  case nil =>
    intro q
    simp only [applyAll, firstFailure, Option.or_none]
  case cons =>
    intro c chain step rest q
    simp only [applyAll, firstFailure, rest, step, Query.noting, Query.fault_foldl_put,
      Option.or_assoc]

theorem apply_eq (c : Call) (q : Query) :
    apply q c = ((c.writes q.dialect).foldl Query.put q).noting c.failure :=
  apply_eq_of_carried c (fun chain _ => fault_applyAll chain) q

theorem clause_of_mem_accepted {α : Type} {w : α → Write} {k : Clause} {input : Except Fault α}
    (each : ∀ a, (w a).clause = k) : ∀ x ∈ accepted w input, x.clause = k := by
  cases input with
  | error e => exact List.forall_mem_nil _
  | ok a => exact List.forall_mem_singleton.2 (each a)

theorem clause_of_mem_nameWrites {names : List String} : ∀ w ∈ nameWrites names, w.clause = .columns := by
  intro w written
  obtain ⟨name, _, inName⟩ := List.mem_flatMap.1 written
  exact clause_of_mem_accepted (w := fun n => .column (.name n)) (fun _ => rfl) w inName

/-- A step writes into no clause but its own. -/
theorem clause_of_mem_writes (c : Call) (d : Option Dialect) : ∀ w ∈ c.writes d, w.clause = c.clause := by
  cases c with
  | dialect _ | limit _ | offset _ | fromSubquery _ _ | whereRaw _ _ _ =>
    exact List.forall_mem_singleton.2 rfl
  | select _ | selectPermitted _ _ => exact List.forall_mem_cons.2 ⟨rfl, clause_of_mem_nameWrites⟩
  | selectRaw text args => exact List.forall_mem_cons.2 ⟨rfl, clause_of_mem_accepted fun _ => rfl⟩
  | selectSubquery label chain =>
    exact List.forall_mem_cons.2 ⟨rfl, List.forall_mem_singleton.2 rfl⟩
  | whereGroup link chain =>
    rw [writes]
    split
    · exact List.forall_mem_nil _
    · exact List.forall_mem_singleton.2 rfl
  | whereSubquery link column op chain =>
    cases chain with
    | none => exact List.forall_mem_nil _
    | some chain =>
      rw [writes]
      exact clause_of_mem_accepted fun _ => rfl
  | _ =>
    rw [writes]
    exact clause_of_mem_accepted fun _ => rfl

end Call

end SqlSelect
