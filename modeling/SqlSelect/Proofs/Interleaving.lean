import SqlSelect.Proofs.AlikeSteps
import SqlSelect.Proofs.Latching
set_option autoImplicit false

/-! Steps for different clauses do not get in the way of each other, so that only the order of the steps for
one clause matters. -/
namespace SqlSelect

section Fold

variable {α β κ : Type} {f : β → α → β} {key : α → κ}
  (comm : ∀ b x y, key x ≠ key y → f (f b x) y = f (f b y) x)

include comm

/-- An element may be taken first if those in front of it have other keys. -/
theorem foldl_append_cons {x : α} {front : List α} (others : ∀ y ∈ front, key y ≠ key x) (back : List α)
    (b : β) : (front ++ x :: back).foldl f b = (x :: (front ++ back)).foldl f b := by
  induction front generalizing b with
  | nil => rfl
  | cons y front ih =>
    obtain ⟨other, rest⟩ := List.forall_mem_cons.1 others
    have swapped := ih rest (f b y)
    simp only [List.cons_append, List.foldl_cons] at swapped ⊢
    rw [swapped, comm b y x other]

/-- A fold comes to the same for two lists that hold, for each key, the same elements in the same order, if
elements with different keys may change places. -/
theorem foldl_eq_of_filter_eq [DecidableEq κ] {xs ys : List α}
    (same : ∀ k, (xs.filter fun x => key x = k) = ys.filter fun y => key y = k) (b : β) :
    xs.foldl f b = ys.foldl f b := by
  induction xs generalizing ys b with
  | nil =>
    have none : ys = [] := by
      refine List.eq_nil_iff_forall_not_mem.2 fun y inside => ?_
      have among : y ∈ ys.filter fun z => key z = key y :=
        List.mem_filter.2 ⟨inside, decide_eq_true rfl⟩
      rw [← same (key y)] at among
      cases among
    rw [none]
  | cons x xs ih =>
    have here := same (key x)
    simp only [List.filter_cons, decide_true, if_true] at here
    obtain ⟨front, back, rfl, others, -, behind⟩ := List.filter_eq_cons_iff.1 here.symm
    have apart : ∀ y ∈ front, key y ≠ key x := fun y inside => of_decide_eq_false (by
      simpa using others y inside)
    have without : ∀ k, (xs.filter fun x => key x = k) = (front ++ back).filter fun y => key y = k := by
      intro k
      have split := same k
      rw [List.filter_append] at split ⊢
      by_cases hit : key x = k
      · subst hit
        have bare : (front.filter fun y => key y = key x) = [] :=
          List.filter_eq_nil_iff.2 fun y inside => by simpa using apart y inside
        rw [bare, List.nil_append, behind]
      · rwa [List.filter_cons_of_neg (by simpa using hit),
          List.filter_cons_of_neg (by simpa using hit)] at split
    rw [foldl_append_cons comm apart, List.foldl_cons, List.foldl_cons]
    exact ih without (f b x)

end Fold

/-- Writes into different clauses may change places. -/
theorem Query.put_comm {w w' : Write} (apart : w.clause ≠ w'.clause) (q : Query) :
    (q.put w).put w' = (q.put w').put w := by
  cases w <;> cases w' <;> first | rfl | exact absurd rfl apart

namespace Call

/-- Two chains with the same steps for each clause, in the same order. -/
def SameByClause (chain chain' : List Call) : Prop :=
  ∀ k : Clause, (chain.filter fun c => c.clause = k) = chain'.filter fun c => c.clause = k

/-- What is written into a clause is written by the steps for it. -/
theorem filter_contents (chain : List Call) (k : Clause) :
    ((contents chain).filter fun w => w.clause = k) =
      contents (chain.filter fun c => c.clause = k) := by
  have step : ∀ c : Call, ((c.writes none).filter fun w => w.clause = k) =
      if c.clause = k then c.writes none else [] := by
    intro c
    have own := clause_of_mem_writes c none
    split
    · rename_i hit
      exact List.filter_eq_self.2 fun w written => decide_eq_true ((own w written).trans hit)
    · rename_i miss
      refine List.filter_eq_nil_iff.2 fun w written => ?_
      rw [own w written, decide_eq_true_eq]
      exact miss
  unfold contents
  induction chain with
  | nil => rfl
  | cons c chain ih =>
    rw [List.flatMap_cons, List.filter_append, step, ih, List.filter_cons]
    by_cases hit : c.clause = k
    · simp only [hit, if_true, decide_true, List.flatMap_cons]
    · simp only [hit, if_false, decide_false, Bool.false_eq_true, List.nil_append]

/-- A dialect that is the only one may be set last as well as first. -/
theorem sameByClause_dialect_last (d : Dialect) {chain : List Call}
    (others : ∀ c ∈ chain, c.clause ≠ .dialect) :
    SameByClause (.dialect d :: chain) (chain ++ [.dialect d]) := by
  intro k
  rw [List.filter_append, ← List.singleton_append, List.filter_append]
  by_cases hit : k = .dialect
  · have bare : (chain.filter fun c => c.clause = k) = [] :=
      List.filter_eq_nil_iff.2 fun c inside => by simpa [hit] using others c inside
    rw [bare, List.append_nil, List.nil_append]
  · have miss : (dialect d).clause ≠ k := Ne.symm hit
    have bare : ([dialect d].filter fun c => c.clause = k) = [] :=
      List.filter_eq_nil_iff.2 fun c inside => by simpa [List.mem_singleton.1 inside] using miss
    rw [bare, List.append_nil, List.nil_append]

theorem firstFailure_append (chain more : List Call) :
    firstFailure (chain ++ more) = (firstFailure chain).or (firstFailure more) := by
  induction chain with
  | nil => rfl
  | cons c chain ih => simp only [List.cons_append, firstFailure, ih, Option.or_assoc]

theorem firstFailure_eq_none_iff {chain : List Call} :
    firstFailure chain = none ↔ ∀ c ∈ chain, c.failure = none := by
  induction chain with
  | nil => simp only [firstFailure, List.not_mem_nil, false_imp_iff, implies_true]
  | cons c chain ih => simp only [firstFailure, Option.or_eq_none_iff, ih, List.forall_mem_cons]

namespace SameByClause

variable {chain chain' : List Call} (same : SameByClause chain chain')

include same

theorem mem_iff (c : Call) : c ∈ chain ↔ c ∈ chain' := by
  have among := congrArg (c ∈ ·) (same c.clause)
  simpa only [List.mem_filter, decide_true, and_true, eq_iff_iff] using among

theorem fails_iff : firstFailure chain = none ↔ firstFailure chain' = none := by
  simp only [firstFailure_eq_none_iff, same.mem_iff]

theorem lastDialect?_eq : lastDialect? chain = lastDialect? chain' := by
  have sets : ∀ chain : List Call,
      (chain.filter fun c => c.clause = .dialect).filterMap dialect? = chain.filterMap dialect? := by
    intro chain
    rw [List.filterMap_filter]
    refine List.filterMap_congr fun c _ => ?_
    cases c <;> rfl
  rw [lastDialect?, ← sets, same .dialect, sets, lastDialect?]

theorem foldl_contents_eq (q : Query) :
    (contents chain).foldl Query.put q = (contents chain').foldl Query.put q := by
  refine foldl_eq_of_filter_eq (fun q w w' apart => Query.put_comm apart q) (fun k => ?_) q
  rw [filter_contents, filter_contents, same k]

/-- Chains that fail alike come to queries that build alike, though those need not be equal. -/
theorem build_eq (failure : firstFailure chain = firstFailure chain') (q : Query) :
    (applyAll q chain).build = (applyAll q chain').build := by
  have alike : q.Alike (.ofValues Eq) q := .refl (fun _ => rfl) (fun _ => rfl) q
  have left := applyAll_alike_contents chain alike
  have right := applyAll_alike_contents chain' alike
  rw [failure, same.foldl_contents_eq] at left
  refine left.build_eq right ?_
  rw [dialect_applyAll, dialect_applyAll, same.lastDialect?_eq]

end SameByClause

end Call

/-- On a query without a fault, chains with the same steps for each clause either go through both and build
alike, or both fail and report the first failure. In particular a dialect may as well be set last as
first. -/
theorem Query.build_of_sameByClause {q : Query} (clean : q.fault = none) :
    (∀ chain chain', Call.SameByClause chain chain' →
      ((∀ c ∈ chain, c.failure = none) ∧ (∀ c ∈ chain', c.failure = none) ∧
          (Call.applyAll q chain).build = (Call.applyAll q chain').build) ∨
        ∃ e e', Call.firstFailure chain = some e ∧ Call.firstFailure chain' = some e' ∧
          (Call.applyAll q chain).build = .error e ∧ (Call.applyAll q chain').build = .error e') ∧
      ∀ d chain, (∀ c ∈ chain, c.clause ≠ .dialect) →
        (Call.applyAll q (.dialect d :: chain)).build =
          (Call.applyAll q (chain ++ [.dialect d])).build := by
  have reported : ∀ chain e, Call.firstFailure chain = some e →
      (Call.applyAll q chain).build = .error e := by
    intro chain e failed
    rw [build, Call.fault_applyAll, clean, failed]
    rfl
  constructor
  · intro chain chain' same
    cases failed : Call.firstFailure chain with
    | none =>
      have failed' := same.fails_iff.1 failed
      exact Or.inl ⟨Call.firstFailure_eq_none_iff.1 failed, Call.firstFailure_eq_none_iff.1 failed',
        same.build_eq (failed.trans failed'.symm) q⟩
    | some e =>
      cases failed' : Call.firstFailure chain' with
      | none =>
        rw [same.fails_iff.2 failed'] at failed
        cases failed
      | some e' => exact Or.inr ⟨e, e', rfl, rfl, reported chain e failed, reported chain' e' failed'⟩
  · intro d chain others
    have failure : Call.firstFailure (chain ++ [.dialect d]) = Call.firstFailure chain :=
      (Call.firstFailure_append chain _).trans Option.or_none
    exact (Call.sameByClause_dialect_last d others).build_eq failure.symm q

/-- Orders by customers above a rank, with other steps before and after. -/
def Call.ordersOfRank (before after : List Call) : List Call :=
  before ++ [.select ["id"], .fromTable "orders", .whereSubquery .and "customer" "IN"
    (some [.select ["id"], .fromTable "customers", .whereOp .and "rank" ">" [.value (.int 3)]])] ++ after

theorem Query.build_ordersOfRank :
    ∃ f, (Call.applyAll empty (Call.ordersOfRank [.dialect .postgres, .limit 5] [])).build = .ok f ∧
      (Call.applyAll empty (Call.ordersOfRank [] [.limit 5, .dialect .postgres])).build = .ok f ∧
      f.text = "SELECT \"id\" FROM \"orders\" WHERE \"customer\" IN " ++
        "(SELECT \"id\" FROM \"customers\" WHERE \"rank\" > $1) LIMIT 5" := by
  have same : Call.SameByClause (Call.ordersOfRank [.dialect .postgres, .limit 5] [])
      (Call.ordersOfRank [] [.limit 5, .dialect .postgres]) := by
    intro k
    cases k <;> rfl
  obtain ⟨f, built, written⟩ : ∃ f,
      (Call.applyAll empty (Call.ordersOfRank [.dialect .postgres, .limit 5] [])).build = .ok f ∧
      f.text = "SELECT \"id\" FROM \"orders\" WHERE \"customer\" IN " ++
        "(SELECT \"id\" FROM \"customers\" WHERE \"rank\" > $1) LIMIT 5" :=
    exists_fragment_of_text (by decide +kernel)
  refine ⟨f, built, ?_, written⟩
  rcases (build_of_sameByClause (q := empty) rfl).1 _ _ same with ⟨-, -, alike⟩ | ⟨e, -, -, -, failed, -⟩
  · rwa [← alike]
  · rw [built] at failed
    cases failed

end SqlSelect
