import SqlSelect.Query.Call
set_option autoImplicit false

/-! Induction over chains of steps. A step may carry a chain for a nested query; of that chain, what is
being proved is already known. -/
namespace SqlSelect.Call

/-- The chain that a step carries, if it carries one. -/
def chain? : Call → Option (List Call)
  | selectSubquery _ chain | fromSubquery _ chain | whereSubquery _ _ _ chain => chain
  | whereGroup _ chain => some chain
  | _ => none

theorem chain_induction {C : Call → Prop} {L : List Call → Prop}
    (call : ∀ c : Call, (∀ chain ∈ c.chain?, L chain) → C c) (nil : L [])
    (cons : ∀ c chain, C c → L chain → L (c :: chain)) : ∀ chain, L chain := by
  -- Most steps carry no chain, so that nothing is asked of one.
  have bare : ∀ c : Call, c.chain? = none → C c := fun c none => call c (by simp [none])
  refine @Call.rec_2 C (fun option => ∀ chain ∈ option, L chain) L ?dialect ?select ?selectRaw
    ?selectSubquery ?selectPermitted ?fromTable ?fromRaw ?fromSubquery ?fromPermitted ?join ?orderBy
    ?orderByRaw ?limit ?offset ?whereOp ?whereBetween ?whereIn ?whereNull ?whereRaw ?whereGroup
    ?whereSubquery ?noChain ?someChain nil cons
  case selectSubquery => exact fun label chain inner => call _ inner
  case fromSubquery => exact fun label chain inner => call _ inner
  case whereSubquery => exact fun link column op chain inner => call _ inner
  case whereGroup =>
    exact fun link chain inner => call _ fun given same => Option.some.inj same ▸ inner
  case noChain => exact fun chain absent => nomatch absent
  case someChain => exact fun chain inner given same => Option.some.inj same ▸ inner
  all_goals
    intros
    exact bare _ rfl

/-- What every step preserves, given that the chain it carries does, every chain preserves. -/
theorem applyAll_preserves {I : Query → Prop}
    (step : ∀ (c : Call) (q : Query),
      (∀ chain ∈ c.chain?, ∀ p, I p → I (applyAll p chain)) → I q → I (apply q c)) :
    ∀ (chain : List Call) (q : Query), I q → I (applyAll q chain) := by
  refine chain_induction (C := fun c => ∀ q, I q → I (apply q c)) ?_ ?_ ?_
  · exact fun c inner q => step c q inner
  · intro q holds
    rwa [applyAll]
  · intro c chain first rest q holds
    rw [applyAll]
    exact rest _ (first q holds)

end SqlSelect.Call
