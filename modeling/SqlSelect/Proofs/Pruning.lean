import SqlSelect.Proofs.AlikeSteps
import SqlSelect.Proofs.Frame
set_option autoImplicit false

/-! Steps that leave nothing behind. A group is taken for its conditions and its fault, so that within one a step
for any other clause is for nothing unless it fails, and a group that comes to neither is itself for nothing. -/
namespace SqlSelect

namespace Query

/-- All that a group is taken for is the same, and so is the dialect, which the queries inside of it are in. -/
structure SameGroup (p q : Query) : Prop where
  dialect : p.dialect = q.dialect
  conditions : p.conditions = q.conditions
  fault : p.fault = q.fault

namespace SameGroup

variable {p q r : Query}

theorem refl (q : Query) : q.SameGroup q := ⟨rfl, rfl, rfl⟩

theorem trans (first : p.SameGroup q) (second : q.SameGroup r) : p.SameGroup r where
  dialect := first.dialect.trans second.dialect
  conditions := first.conditions.trans second.conditions
  fault := first.fault.trans second.fault

theorem symm (same : p.SameGroup q) : q.SameGroup p where
  dialect := same.dialect.symm
  conditions := same.conditions.symm
  fault := same.fault.symm

theorem put (same : p.SameGroup q) (w : Write) : (p.put w).SameGroup (q.put w) := by
  cases w with
  | dialect d => exact ⟨rfl, same.conditions, same.fault⟩
  | condition c => exact ⟨same.dialect, congrArg (· ++ [_]) same.conditions, same.fault⟩
  | _ => exact ⟨same.dialect, same.conditions, same.fault⟩

theorem foldl_put (same : p.SameGroup q) (ws : List Write) :
    (ws.foldl Query.put p).SameGroup (ws.foldl Query.put q) := by
  induction ws generalizing p q with
  | nil => exact same
  | cons w ws ih => exact ih (same.put w)

theorem noting (same : p.SameGroup q) (fault : Option Fault) :
    (p.noting fault).SameGroup (q.noting fault) :=
  ⟨same.dialect, same.conditions, congrArg (Option.or · fault) same.fault⟩

theorem apply (same : p.SameGroup q) (c : Call) : (Call.apply p c).SameGroup (Call.apply q c) := by
  rw [Call.apply_eq, Call.apply_eq, same.dialect]
  exact (same.foldl_put _).noting _

theorem addGroup_eq (same : p.SameGroup q) (outer : Query) (link : Link) :
    outer.addGroup link p = outer.addGroup link q := by
  rw [Query.addGroup_eq, Query.addGroup_eq, same.conditions, same.fault]

end SameGroup

end Query

namespace Call

/-- Whether a step leaves nothing behind where it stands, in a group or outside of one. -/
def idle (inGroup : Bool) : Call → Bool
  | whereGroup _ chain =>
    (applyAll .empty chain).conditions.isEmpty && (applyAll .empty chain).fault.isNone
  | c =>
    inGroup && (apply .empty c).fault.isNone && c.clause ≠ .conditions && c.clause ≠ .dialect

mutual

/-- The step with all that is for nothing taken out of the chain that it carries. -/
def pruned : Call → Call
  | selectSubquery label chain => selectSubquery label (prunedOption chain)
  | fromSubquery label chain => fromSubquery label (prunedOption chain)
  | whereSubquery link column op chain => whereSubquery link column op (prunedOption chain)
  | whereGroup link chain => whereGroup link (prunedChain true chain)
  | c => c

/-- The chain with all that is for nothing taken out, from the innermost chains outwards: a group may be for
nothing because of what was taken out of it. -/
def prunedChain (inGroup : Bool) : List Call → List Call
  | [] => []
  | c :: chain =>
    if c.pruned.idle inGroup then prunedChain inGroup chain else c.pruned :: prunedChain inGroup chain

/-- The chain of a subquery, pruned. -/
def prunedOption : Option (List Call) → Option (List Call)
  | none => none
  | some chain => some (prunedChain false chain)

end

section Idle

/-- Whether a chain comes to any condition and to any fault does not depend on the dialect that it begins in. -/
theorem idle_whereGroup (inGroup : Bool) (link : Link) (chain : List Call) (q : Query) :
    (whereGroup link chain).idle inGroup = true ↔
      (applyAll q.scope chain).conditions = [] ∧ (applyAll q.scope chain).fault = none := by
  have fresh : Query.Alike (.ofValues Eq) .empty q.scope := .intro rfl rfl .nil .none .nil .nil .nil rfl rfl
  have alike := applyAll_alike chain fresh
  rw [idle, alike.fault_eq, Bool.and_eq_true, List.isEmpty_iff, Option.isNone_iff_eq_none]
  have conditions := alike.conditions
  generalize (applyAll .empty chain).conditions = before, (applyAll q.scope chain).conditions = after
    at conditions
  cases conditions <;> simp only [reduceCtorEq]

/-- A group without conditions and without a fault leaves the query as it was. -/
theorem apply_of_idle_group {inGroup : Bool} {link : Link} {chain : List Call}
    (idle : (whereGroup link chain).idle inGroup = true) (q : Query) :
    apply q (whereGroup link chain) = q := by
  obtain ⟨bare, sound⟩ := (idle_whereGroup inGroup link chain q).1 idle
  rw [apply, Query.whereGroup_eq, Query.addGroup_eq, bare, sound, List.isEmpty_nil, if_pos rfl]
  exact Query.noting_none q

/-- A step that is neither for the conditions nor for the dialect, and that does not fail, changes nothing that
a group is taken for. -/
theorem sameGroup_apply {c : Call} (passes : (apply .empty c).fault = none) (conditions : c.clause ≠ .conditions)
    (dialect : c.clause ≠ .dialect) (q : Query) : (apply q c).SameGroup q where
  dialect := (apply_sameBut c q).dialect dialect
  conditions := (apply_sameBut c q).conditions conditions
  fault := by
    rw [fault_apply] at passes
    rw [fault_apply, (Option.or_eq_none_iff.1 passes).2, Option.or_none]

/-- Outside of groups nothing but a group is for nothing. -/
theorem apply_of_idle {c : Call} (idle : c.idle false = true) (q : Query) : apply q c = q := by
  cases c with
  | whereGroup link chain => exact apply_of_idle_group idle q
  | _ => cases idle

theorem sameGroup_of_idle {c : Call} (idle : c.idle true = true) (q : Query) :
    (apply q c).SameGroup q := by
  cases c with
  | whereGroup link chain =>
    rw [apply_of_idle_group idle]
    exact .refl q
  | _ =>
    simp only [Call.idle, Bool.true_and, Bool.and_eq_true, Option.isNone_iff_eq_none,
      decide_eq_true_eq] at idle
    exact sameGroup_apply idle.1.1 idle.1.2 idle.2 q

theorem needed_of_not_idle {c : Call} (kept : c.idle true = false) :
    c.clause = .conditions ∨ c.clause = .dialect ∨ ∀ q, (apply q c).fault ≠ none := by
  by_cases conditions : c.clause = .conditions
  · exact .inl conditions
  by_cases dialect : c.clause = .dialect
  · exact .inr (.inl dialect)
  refine .inr (.inr fun q passes => ?_)
  rw [fault_apply] at passes
  cases c with
  | whereGroup link chain => exact conditions rfl
  | _ => simp [idle, fault_apply, Query.empty, Option.or_eq_none_iff.1 passes, conditions, dialect] at kept

end Idle

section Pruned

theorem prunedChain_eq (inGroup : Bool) (chain : List Call) :
    prunedChain inGroup chain = (chain.map pruned).filter fun c => !c.idle inGroup := by
  induction chain with
  | nil => rfl
  | cons c chain ih =>
    rw [prunedChain, ih, List.map_cons, List.filter_cons]
    cases c.pruned.idle inGroup <;> rfl

theorem mem_prunedChain {inGroup : Bool} {chain : List Call} {c : Call} :
    c ∈ prunedChain inGroup chain ↔ (∃ c₀ ∈ chain, c₀.pruned = c) ∧ c.idle inGroup = false := by
  rw [prunedChain_eq, List.mem_filter, List.mem_map, Bool.not_eq_true']

/-- The chain that a pruned step carries is pruned. -/
theorem chain?_pruned (c : Call) :
    ∀ inner ∈ c.pruned.chain?, ∃ inGroup given, inner = prunedChain inGroup given := by
  have optional : ∀ chain : Option (List Call), ∀ inner ∈ prunedOption chain,
      ∃ inGroup given, inner = prunedChain inGroup given := by
    intro chain inner carried
    cases chain with
    | none => cases carried
    | some given =>
      cases carried
      exact ⟨false, given, rfl⟩
  intro inner carried
  cases c with
  | selectSubquery label chain => exact optional chain inner carried
  | fromSubquery label chain => exact optional chain inner carried
  | whereSubquery link column op chain => exact optional chain inner carried
  | whereGroup link chain =>
    cases carried
    exact ⟨true, chain, rfl⟩
  | _ => cases carried

theorem pruned_eq_whereGroup {c : Call} {link : Link} {group : List Call}
    (same : c.pruned = whereGroup link group) : ∃ given, group = prunedChain true given := by
  cases c with
  | whereGroup _ chain =>
    cases same
    exact ⟨chain, rfl⟩
  | _ => cases same

/-- The groups of a chain, at any depth. -/
inductive HasGroup : List Call → List Call → Prop where
  | here {chain group : List Call} {link : Link} (held : whereGroup link group ∈ chain) : HasGroup chain group
  | within {chain inner group : List Call} {c : Call} (held : c ∈ chain) (carried : inner ∈ c.chain?)
    (deeper : HasGroup inner group) : HasGroup chain group

/-- Nothing is left in a pruned chain that could be taken out of it. -/
theorem needed_of_hasGroup {inGroup : Bool} {chain group : List Call}
    (inside : HasGroup (prunedChain inGroup chain) group) :
    (∀ q : Query, (applyAll q.scope group).conditions ≠ [] ∨ (applyAll q.scope group).fault ≠ none) ∧
      ∀ c ∈ group, c.clause = .conditions ∨ c.clause = .dialect ∨ ∀ q, (apply q c).fault ≠ none := by
  generalize given : prunedChain inGroup chain = outer at inside
  induction inside generalizing inGroup chain with
  | @here outer group link held =>
    subst given
    obtain ⟨⟨c, _, same⟩, kept⟩ := mem_prunedChain.1 held
    obtain ⟨inner, rfl⟩ := pruned_eq_whereGroup same
    refine ⟨fun q => ?_, fun c inside => needed_of_not_idle (mem_prunedChain.1 inside).2⟩
    rw [← not_and_or]
    intro idle
    rw [(idle_whereGroup inGroup link _ q).2 idle] at kept
    cases kept
  | @within outer inner group c held carried deeper ih =>
    subst given
    obtain ⟨⟨c, _, rfl⟩, _⟩ := mem_prunedChain.1 held
    obtain ⟨inGroup, chain, rfl⟩ := chain?_pruned c _ carried
    exact ih rfl

/-- What pruning keeps of a chain: outside of groups all that it does, and within one all that the group is taken
for. -/
structure Kept (chain : List Call) : Prop where
  outside : ∀ q, applyAll q (prunedChain false chain) = applyAll q chain
  inside : ∀ p q : Query, p.SameGroup q →
    (applyAll p (prunedChain true chain)).SameGroup (applyAll q chain)

theorem configuration_prunedOption (chain : Option (List Call)) (inner : ∀ given ∈ chain, Kept given) :
    configuration (prunedOption chain) = configuration chain := by
  cases chain with
  | none => rfl
  | some chain => exact congrArg some (funext (inner chain rfl).outside)

theorem apply_pruned_of_kept (c : Call) (carried : ∀ chain ∈ c.chain?, Kept chain) (q : Query) :
    apply q c.pruned = apply q c := by
  cases c with
  | selectSubquery label chain => rw [pruned, apply, apply, configuration_prunedOption chain carried]
  | fromSubquery label chain => rw [pruned, apply, apply, configuration_prunedOption chain carried]
  | whereSubquery link column op chain =>
    rw [pruned, apply, apply, configuration_prunedOption chain carried]
  | whereGroup link chain =>
    have same := (carried chain rfl).inside _ _ (.refl q.scope)
    rw [pruned, apply, apply, Query.whereGroup_eq, Query.whereGroup_eq]
    exact same.addGroup_eq q link
  | _ => rfl

theorem Kept.cons {c : Call} {chain : List Call} (step : ∀ q, apply q c.pruned = apply q c)
    (rest : Kept chain) : Kept (c :: chain) where
  outside q := by
    rw [prunedChain, applyAll, ← step]
    cases idle : c.pruned.idle false with
    | true => rw [if_pos rfl, apply_of_idle idle, rest.outside]
    | false => rw [if_neg Bool.false_ne_true, applyAll, rest.outside]
  inside p q same := by
    rw [prunedChain, applyAll, ← step]
    cases idle : c.pruned.idle true with
    | true =>
      rw [if_pos rfl]
      exact rest.inside p _ (same.trans (sameGroup_of_idle idle q).symm)
    | false =>
      rw [if_neg Bool.false_ne_true, applyAll]
      exact rest.inside _ _ (same.apply c.pruned)

theorem kept (chain : List Call) : Kept chain := by
  refine chain_induction (C := fun c => ∀ q, apply q c.pruned = apply q c) (L := Kept) ?call ?nil ?cons chain
  case call => exact apply_pruned_of_kept
  case nil => exact ⟨fun _ => rfl, fun _ _ same => same⟩
  case cons => exact fun c chain step rest => .cons step rest

/-- A chain makes the same query without the groups that come to nothing and without what the other groups are
not taken for; and in what is left, each group has a condition or a fault, and each step of it is for one, or
for the dialect. -/
theorem applyAll_prunedChain (chain : List Call) :
    (∀ q, applyAll q (prunedChain false chain) = applyAll q chain) ∧
      ∀ group, HasGroup (prunedChain false chain) group →
        (∀ q : Query, (applyAll q.scope group).conditions ≠ [] ∨ (applyAll q.scope group).fault ≠ none) ∧
          ∀ c ∈ group, c.clause = .conditions ∨ c.clause = .dialect ∨ ∀ q, (apply q c).fault ≠ none :=
  ⟨(kept chain).outside, fun _ => needed_of_hasGroup⟩

/-- Two of the groups come to nothing, one of them only once it is pruned, and so does one in a subquery; another
stays for its fault alone. -/
theorem applyAll_prunedChain_nested :
    (∀ q,
        applyAll q
            [.fromTable "t", .whereGroup .or [.whereRaw .and "a" []], .whereGroup .and [.fromTable " "],
              .whereSubquery .and "id" "in" (some [.limit 1])] =
          applyAll q
            [.fromTable "t", .whereGroup .and [], .whereGroup .or [.limit 1, .whereGroup .and [.select ["a"]]],
              .whereGroup .or [.limit 1, .whereRaw .and "a" []], .whereGroup .and [.offset 1, .fromTable " "],
              .whereSubquery .and "id" "in" (some [.whereGroup .and [], .limit 1])]) ∧
      (applyAll Query.empty.scope [.fromTable " "]).fault ≠ none := by
  have pruning := applyAll_prunedChain
    [.fromTable "t", .whereGroup .and [], .whereGroup .or [.limit 1, .whereGroup .and [.select ["a"]]],
      .whereGroup .or [.limit 1, .whereRaw .and "a" []], .whereGroup .and [.offset 1, .fromTable " "],
      .whereSubquery .and "id" "in" (some [.whereGroup .and [], .limit 1])]
  refine ⟨pruning.1, ?_⟩
  have inside : HasGroup
      [.fromTable "t", .whereGroup .or [.whereRaw .and "a" []], .whereGroup .and [.fromTable " "],
        .whereSubquery .and "id" "in" (some [.limit 1])] [.fromTable " "] :=
    .here (.tail _ (.tail _ (.head _)))
  have bare : (applyAll Query.empty.scope [.fromTable " "]).conditions = [] := rfl
  exact ((pruning.2 _ inside).1 .empty).resolve_left fun has => has bare

end Pruned

end Call

end SqlSelect
