import SqlSelect.Proofs.Frame
import SqlSelect.Query.Build
set_option autoImplicit false

/-! A noted fault stays, and nothing else about a query depends on it. So what a chain of steps builds, or why
it does not build, can be read off the chain. -/
namespace SqlSelect

namespace Call

/-- A step on a query that differs in its fault alone ends in a query that differs in its fault alone. -/
theorem apply_fault (c : Call) (q : Query) (fault : Option Fault) :
    apply { q with fault := fault } c = { apply q c with fault := fault.or c.failure } := by
  simp only [apply_eq, Query.foldl_put_fault, Query.noting]

theorem applyAll_fault (chain : List Call) (q : Query) (fault : Option Fault) :
    applyAll { q with fault := fault } chain =
      { applyAll q chain with fault := fault.or (firstFailure chain) } := by
  induction chain generalizing q fault with
  | nil => simp only [applyAll, firstFailure, Option.or_none]
  | cons c chain ih => simp only [applyAll, firstFailure, apply_fault, ih, Option.or_assoc]

/-- Whatever fails later, the fault that is there stays, and the chain does to everything else, the nested
queries and their faults included, what it does without a fault. -/
theorem applyAll_latched (chain : List Call) (q : Query) (e : Fault) :
    applyAll { q with fault := some e } chain =
      { applyAll { q with fault := none } chain with fault := some e } := by
  simp only [applyAll_fault, Option.some_or]

section Dialect

/-- The dialect that a step sets, if it sets one. -/
def dialect? : Call → Option Dialect
  | dialect d => some d
  | _ => none

/-- The dialect that a chain sets last, if it sets one itself. -/
def lastDialect? (chain : List Call) : Option Dialect :=
  (chain.filterMap dialect?).getLast?

theorem lastDialect?_cons (c : Call) (chain : List Call) :
    lastDialect? (c :: chain) = (lastDialect? chain).or c.dialect? := by
  unfold lastDialect?
  cases sets : c.dialect? with
  | none => rw [List.filterMap_cons_none sets, Option.or_none]
  | some d =>
    rw [List.filterMap_cons_some sets, ← List.singleton_append, List.getLast?_append,
      List.getLast?_singleton]

theorem dialect_apply (c : Call) (q : Query) : (apply q c).dialect = c.dialect?.or q.dialect := by
  by_cases sets : c.clause = .dialect
  · cases c with
    | dialect d => rfl
    | _ => cases sets
  · have none : c.dialect? = none := by
      cases c with
      | dialect d => exact absurd rfl sets
      | _ => rfl
    rw [none, Option.none_or]
    exact (apply_sameBut c q).dialect sets

theorem dialect_applyAll (chain : List Call) (q : Query) :
    (applyAll q chain).dialect = (lastDialect? chain).or q.dialect := by
  induction chain generalizing q with
  | nil => rfl
  | cons c chain ih => rw [applyAll, ih, dialect_apply, lastDialect?_cons, Option.or_assoc]

end Dialect

theorem action_applyAll (chain : List Call) (q : Query) :
    (applyAll q chain).action =
      if ∃ c ∈ chain, c.clause = .columns then some .select else q.action := by
  induction chain generalizing q with
  | nil => simp only [applyAll, List.not_mem_nil, false_and, exists_false, if_false]
  | cons c chain ih =>
    rw [applyAll, ih, action_apply]
    simp only [List.mem_cons, exists_eq_or_imp]
    by_cases columns : c.clause = .columns
    · simp only [columns, true_or, if_true, ite_self]
    · simp only [columns, false_or, if_false]

end Call

/-- What comes of any chain of steps on a new query: the failure of its first step that fails; then the
want of a dialect, then that of a step for the SELECT list; and otherwise what the query compiles to in
the dialect that was set last. -/
theorem Query.build_applyAll_empty (chain : List Call) :
    (Call.applyAll empty chain).build =
      match Call.firstFailure chain, Call.lastDialect? chain with
      | some e, _ => .error e
      | none, none => .error .noDialect
      | none, some d =>
        if ∃ c ∈ chain, c.clause = .columns then (Call.applyAll empty chain).compile d
        else .error .noAction := by
  have fault : (Call.applyAll empty chain).fault = Call.firstFailure chain :=
    Call.fault_applyAll chain empty
  have dialect : (Call.applyAll empty chain).dialect = Call.lastDialect? chain :=
    (Call.dialect_applyAll chain empty).trans Option.or_none
  have action := Call.action_applyAll chain empty
  unfold build ready
  rw [fault, dialect, action]
  cases Call.firstFailure chain with
  | some e => rfl
  | none =>
    cases Call.lastDialect? chain with
    | none => rfl
    | some d =>
      by_cases columns : ∃ c ∈ chain, c.clause = .columns
      · simp only [columns, if_true]
        rfl
      · simp only [columns, if_false]
        rfl

end SqlSelect
