import SqlSelect.Emitter.Basic
set_option autoImplicit false

/-! A subquery takes its place in a statement. It has been written on its own, counting from one, so
its placeholders are raised by the number of values bound before it. -/
namespace SqlSelect.Emitter

/-- A way for a subquery to take its place, made of the check that comes first and of the emitter of
the subquery itself. -/
abbrev Embedding : Type := Except Fault Unit → Emitter → Emitter

/-- A statement that was written on its own, put behind the values bound so far: its placeholders are
renumbered. The check comes before the writing. -/
def embedded (d : Dialect) : Embedding := fun check body bound => do
  check
  let inner ← body 0
  return ⟨d.renumber bound inner.text, inner.params⟩

theorem run_embedded_eq_ok_iff (d : Dialect) (check : Except Fault Unit) (body : Emitter)
    (bound : Nat) (f : Fragment) :
    (embedded d check body).run bound = .ok f ↔
      check = .ok () ∧ ∃ inner, body.run 0 = .ok inner ∧
        f = ⟨d.renumber bound inner.text, inner.params⟩ := by
  change (do check; let inner ← body 0; return Fragment.mk (d.renumber bound inner.text) inner.params) =
      _ ↔
    check = .ok () ∧ ∃ inner, body 0 = .ok inner ∧ f = ⟨d.renumber bound inner.text, inner.params⟩
  cases check with
  | error e => simp [bind, Except.bind]
  | ok u =>
    cases body 0 with
    | error e => simp [bind, Except.bind]
    | ok inner => simp [bind, Except.bind, pure, Except.pure, eq_comm]

theorem run_embedded (d : Dialect) (check : Except Fault Unit) (body : Emitter) (bound : Nat) :
    (embedded d check body).run bound =
      check.bind fun _ => (body.run 0).map fun f => ⟨d.renumber bound f.text, f.params⟩ := by
  cases check with
  | error e => rfl
  | ok u =>
    change (body.run 0 >>= fun f => Except.ok (Fragment.mk (d.renumber bound f.text) f.params)) = _
    cases body.run 0 <;> rfl

/-- A subquery under a label; that there is a query is checked before that there is a label. -/
def labelled (d : Dialect) (label : String) : Option Emitter → Emitter
  | none => fail .missingSubquery
  | some body =>
    if label.isEmpty then fail .emptyAlias
    else text "(" ++ body ++ text (") AS " ++ d.quoteIdentifier label)

end SqlSelect.Emitter
