import SqlSelect.Proofs.Frame
import SqlSelect.Proofs.Parameters
import SqlSelect.Proofs.TokenFree
set_option autoImplicit false

/-! A condition added to a query whose statement ends with its conditions. The statement of the query stays as it
was, numbers included, and what the condition writes after the values bound so far comes behind it. -/
namespace SqlSelect

namespace Emitter

variable (link : Link) (e : Emitter)

theorem linkedRest_append_singleton (items : List (Link × Emitter)) :
    linked.linkedRest (items ++ [(link, e)]) =
      linked.linkedRest items ++ (text (" " ++ link.keyword ++ " ") ++ e) := by
  induction items with
  | nil =>
    have none : linked.linkedRest [] = empty := rfl
    rw [List.nil_append, none, empty_append, linked.linkedRest, none, append_empty]
  | cons item items ih =>
    obtain ⟨first, a⟩ := item
    rw [List.cons_append, linked.linkedRest, ih, linked.linkedRest]
    simp only [append_assoc]

theorem linked_append_singleton {items : List (Link × Emitter)} (written : items ≠ []) :
    linked (items ++ [(link, e)]) = linked items ++ (text (" " ++ link.keyword ++ " ") ++ e) := by
  cases items with
  | nil => exact absurd rfl written
  | cons item items =>
    obtain ⟨first, a⟩ := item
    rw [List.cons_append, linked, linkedRest_append_singleton, linked, append_assoc]

end Emitter

open Emitter

theorem whereClause_append_singleton (link : Link) (e : Emitter) (items : List (Link × Emitter)) :
    whereClause (items ++ [(link, e)]) = whereClause items ++
      (text (if items.isEmpty then " WHERE " else " " ++ link.keyword ++ " ") ++ e) := by
  cases items with
  | nil =>
    have alone : linked [(link, e)] = e := append_empty e
    have bare : whereClause [] = empty := rfl
    rw [List.nil_append, bare, empty_append, whereClause, alone]
    rfl
  | cons item items =>
    have more : (item :: items ++ [(link, e)]).isEmpty = false := rfl
    have some : (item :: items).isEmpty = false := rfl
    rw [whereClause, whereClause, more, some, linked_append_singleton link e (List.cons_ne_nil _ _)]
    exact (append_assoc _ _ _).symm

namespace Query

/-- What comes in front of the next condition of a query. -/
def conditionLead (q : Query) (link : Link) : String :=
  if q.conditions.isEmpty then " WHERE " else " " ++ link.keyword ++ " "

theorem conditionLead_cases (q : Query) (link : Link) :
    q.conditionLead link = " WHERE " ∨ q.conditionLead link = " AND " ∨
      q.conditionLead link = " OR " := by
  unfold conditionLead
  split
  · exact Or.inl rfl
  · cases link with
    | and => exact Or.inr (Or.inl (by decide))
    | or => exact Or.inr (Or.inr (by decide))

theorem isSpaced_conditionLead (q : Query) (link : Link) : Text.isSpaced (q.conditionLead link) := by
  rcases q.conditionLead_cases link with lead | lead | lead
  all_goals
    rw [lead]
    decide

/-- The clauses behind the conditions are empty. -/
structure EndsWithConditions (q : Query) : Prop where
  order : q.order = []
  limit : q.limit = none
  offset : q.offset = none

variable {q : Query} {link : Link} {p : Predicate}

theorem EndsWithConditions.emitter_eq (ends : q.EndsWithConditions) (d : Dialect) :
    q.emitter d =
      text "SELECT " ++ columnsClause (q.columns.map (Column.emitterVia d (embedded d))) ++
        text " FROM " ++ sourceEmitter d (embedded d) q.source ++ joinsClause d q.joins ++
        whereClause (q.conditions.map fun c => (c.link, c.predicate.emitterVia d (embedded d))) := by
  have noOrder : orderClause d [] = Emitter.empty := rfl
  have noNumber : ∀ keyword, numberClause keyword none = Emitter.empty := fun _ => rfl
  rw [emitter, emitterVia_eq, ends.order, ends.limit, ends.offset, noOrder, noNumber, noNumber,
    append_empty, append_empty, append_empty]

theorem EndsWithConditions.emitter_added (ends : q.EndsWithConditions) {r : Query}
    (same : q.SameBut .conditions r) (added : r.conditions = q.conditions ++ [⟨link, p⟩]) (d : Dialect) :
    r.emitter d =
      q.emitter d ++ (text (q.conditionLead link) ++ p.emitterVia d (embedded d)) := by
  have ends' : r.EndsWithConditions :=
    ⟨(same.order nofun).trans ends.order, (same.limit nofun).trans ends.limit,
      (same.offset nofun).trans ends.offset⟩
  have lead : (q.conditions.map fun c => (c.link, c.predicate.emitterVia d (embedded d))).isEmpty =
      q.conditions.isEmpty := List.isEmpty_map
  rw [ends'.emitter_eq, ends.emitter_eq, same.columns nofun, same.source nofun, same.joins nofun, added,
    List.map_append, List.map_singleton, whereClause_append_singleton, lead, ← conditionLead,
    append_assoc _ (whereClause _)]

theorem EndsWithConditions.values_added (ends : q.EndsWithConditions) {r : Query}
    (same : q.SameBut .conditions r) (added : r.conditions = q.conditions ++ [⟨link, p⟩]) :
    r.values = q.values ++ p.values := by
  have noOrder : r.order = [] := (same.order nofun).trans ends.order
  rw [values_eq, values_eq, noOrder, ends.order, same.columns nofun, same.source nofun, added,
    List.flatMap_append, List.flatMap_singleton]
  simp only [List.flatMap_nil, List.append_nil, List.append_assoc]

theorem clause_of_added {c : Call} (added : (Call.apply q c).conditions = q.conditions ++ [⟨link, p⟩]) :
    c.clause = .conditions := by
  by_contra other
  have kept := (Call.apply_sameBut c q).conditions other
  have longer := congrArg List.length (kept.symm.trans added)
  simp at longer

theorem numbersIn_added {d : Dialect} (readable : d.Readable) (q : Query) (link : Link) (s t : String) :
    d.numbersIn (s ++ q.conditionLead link ++ t) = d.numbersIn s ++ d.numbersIn t := by
  obtain ⟨word, opened, closed, written⟩ := Text.isSpaced_iff.1 (q.isSpaced_conditionLead link)
  have bare := readable.numbersIn_of_no_token (Dialect.not_holdsToken_of_isKeyword (d := d) word)
  have apart := Text.closes_append (s := s) closed written
  rw [readable.numbersIn_append (Or.inl apart), readable.numbersIn_append (Or.inr opened), bare,
    List.append_nil]

/-- Adding a condition leaves what is compiled as it is, numbers included. If the query does not compile, it does
not compile with the condition, for the same fault; if it does, then its statement and its parameters are followed
by those that the condition has after them, or the condition is refused after them. -/
theorem compile_added_condition (ends : q.EndsWithConditions) {c : Call}
    (added : (Call.apply q c).conditions = q.conditions ++ [⟨link, p⟩]) (d : Dialect) :
    (∀ e, q.compile d = .error e → (Call.apply q c).compile d = .error e) ∧
    ∀ f, q.compile d = .ok f →
      (∀ e, (p.emitterVia d (embedded d)).run f.params.length = .error e →
        (Call.apply q c).compile d = .error e) ∧
      ∀ x, (p.emitterVia d (embedded d)).run f.params.length = .ok x →
        (Call.apply q c).compile d =
          .ok ⟨f.text ++ q.conditionLead link ++ x.text, f.params ++ p.values⟩ ∧
        (d.Readable → d.numbersIn (f.text ++ q.conditionLead link ++ x.text) =
          d.numbersIn f.text ++ d.numbersIn x.text) := by
  have same := clause_of_added added ▸ Call.apply_sameBut c q
  have emitted := ends.emitter_added same added d
  have values := ends.values_added same added
  refine ⟨fun e refused => ?_, fun f compiled => ⟨fun e refused => ?_, fun x written => ⟨?_, ?_⟩⟩⟩
  · rw [compile, emitted]
    exact (run_append_eq_error_iff ..).2 (Or.inl refused)
  · rw [compile, emitted]
    have behind : (text (q.conditionLead link) ++ p.emitterVia d (embedded d)).run
        (0 + f.params.length) = .error e := by
      rw [Nat.zero_add, run_text_append, refused]
      rfl
    exact (run_append_eq_error_iff ..).2 (Or.inr ⟨f, compiled, behind⟩)
  · have behind : (text (q.conditionLead link) ++ p.emitterVia d (embedded d)).run
        (0 + f.params.length) = .ok (⟨q.conditionLead link, []⟩ ++ x) := by
      rw [Nat.zero_add, run_text_append, written]
      rfl
    have whole : (Call.apply q c).compile d = .ok (f ++ (⟨q.conditionLead link, []⟩ ++ x)) := by
      rw [compile, emitted]
      exact (run_append_eq_ok_iff ..).2 ⟨f, _, compiled, behind, rfl⟩
    have front : f.params = q.values := (emitter_binds d q).params compiled
    have params : f.params ++ x.params = q.values ++ p.values :=
      ((emitter_binds d _).params whole).trans values
    rw [whole, front, ← params]
    exact congrArg (fun text => Except.ok (Fragment.mk text _)) (String.append_assoc ..).symm
  · exact fun readable => numbersIn_added readable q link f.text x.text

/-- A group of conditions with two values goes on from the three that are bound. -/
theorem compile_added_condition_group :
    ∃ f g, goodOrders.compile .postgres = .ok f ∧
      (Call.apply goodOrders (.whereGroup .or
        [.whereBetween .and true "total" (.value (.int 18)) (.value (.int 65)),
          .whereNull .or false "total"])).compile .postgres = .ok g ∧
      g.text = f.text ++ " OR " ++ "(\"total\" NOT BETWEEN $4 AND $5 OR \"total\" IS NULL)" ∧
      g.params = f.params ++ [.int 18, .int 65] := by
  have ends : goodOrders.EndsWithConditions := ⟨rfl, rfl, rfl⟩
  obtain ⟨f, compiled, -⟩ := goodOrders_written
  have bound : f.params = [.int 10, .int 1, .text "gift"] := (emitter_binds _ _).params compiled
  obtain ⟨x, written, group⟩ : ∃ x, ((Predicate.group [⟨.and, .between "total" true (.int 18) (.int 65)⟩,
      ⟨.or, .nullTest "total" false⟩]).emitterVia .postgres (embedded .postgres)).run 3 = .ok x ∧
      x.text = "(\"total\" NOT BETWEEN $4 AND $5 OR \"total\" IS NULL)" :=
    exists_fragment_of_text (by decide +kernel)
  have count : f.params.length = 3 := by rw [bound]; rfl
  have whole := (((compile_added_condition ends (c := .whereGroup .or
    [.whereBetween .and true "total" (.value (.int 18)) (.value (.int 65)), .whereNull .or false "total"])
    rfl .postgres).2 f compiled).2 x (count ▸ written)).1
  exact ⟨f, _, compiled, whole, congrArg (f.text ++ " OR " ++ ·) group, rfl⟩

end Query

end SqlSelect
