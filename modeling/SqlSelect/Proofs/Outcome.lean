import SqlSelect.Proofs.Reading
set_option autoImplicit false

/-! Two results side by side. They agree when both are refused for the same fault, or when both are given
and related. -/
namespace SqlSelect

inductive Outcome {α β : Type} (R : α → β → Prop) : Except Fault α → Except Fault β → Prop where
  | refused (e : Fault) : Outcome R (.error e) (.error e)
  | given {a : α} {b : β} (related : R a b) : Outcome R (.ok a) (.ok b)

namespace Outcome

variable {α β γ : Type} {R : α → β → Prop} {x : Except Fault α} {y : Except Fault β}

theorem exists_of_ok {a : α} (same : Outcome R x y) (ok : x = .ok a) : ∃ b, y = .ok b ∧ R a b := by
  cases same with
  | refused e => cases ok
  | given related =>
    cases ok
    exact ⟨_, rfl, related⟩

theorem imp {S : α → β → Prop} (same : Outcome R x y)
    (weaker : ∀ {a b}, x = .ok a → y = .ok b → R a b → S a b) : Outcome S x y := by
  cases same with
  | refused e => exact .refused e
  | given related => exact .given (weaker rfl rfl related)

/-- Two results that agree with a third one agree with each other. -/
theorem meet {R' : γ → β → Prop} {x' : Except Fault γ} (first : Outcome R x y)
    (second : Outcome R' x' y) : Outcome (fun a c => ∃ b, R a b ∧ R' c b) x x' := by
  cases first with
  | refused e =>
    cases second with
    | refused => exact .refused e
  | given related =>
    cases second with
    | given related' => exact .given ⟨_, related, related'⟩

end Outcome

namespace Emitter

/-- Written after the same number of values, the two emitters agree. -/
def Tracks (R : Fragment → Fragment → Prop) (a b : Emitter) : Prop :=
  ∀ bound, Outcome R (a.run bound) (b.run bound)

variable {R : Fragment → Fragment → Prop} {a a' b b' : Emitter}

theorem tracks_fail (e : Fault) : (fail e).Tracks R (fail e) :=
  fun _ => .refused e

theorem Tracks.guarded (inner : a.Tracks R a') (fault : Option Fault) :
    (guarded fault a).Tracks R (guarded fault a') := by
  cases fault with
  | none => exact inner
  | some e => exact tracks_fail e

theorem Tracks.embedded {d : Dialect} (inner : a.Tracks R a')
    (raise : ∀ bound {x y : Fragment}, R x y →
      R ⟨d.renumber bound x.text, x.params⟩ ⟨d.renumber bound y.text, y.params⟩)
    (check : Except Fault Unit) : (embedded d check a).Tracks R (embedded d check a') := by
  intro bound
  rw [run_embedded, run_embedded]
  cases check with
  | error e => exact .refused e
  | ok u =>
    have alone := inner 0
    simp only [Except.bind]
    generalize a.run 0 = x, a'.run 0 = x' at alone
    cases alone with
    | refused e => exact .refused e
    | given related => exact .given (raise bound related)

/-- Related fragments bind as many values, so the second pieces are written after as many as well. -/
theorem Tracks.append (counts : ∀ {x y}, R x y → x.params.length = y.params.length)
    (first : a.Tracks R a') (second : b.Tracks R b')
    (glue : ∀ {bound bound' x y x' y'}, a.run bound = .ok x → b.run bound' = .ok y →
      R x x' → R y y' → R (x ++ y) (x' ++ y')) : (a ++ b).Tracks R (a' ++ b') := by
  intro bound
  have front := first bound
  generalize hx : a.run bound = x, hx' : a'.run bound = x' at front
  cases front with
  | refused e =>
    rw [(run_append_eq_error_iff ..).2 (Or.inl hx), (run_append_eq_error_iff ..).2 (Or.inl hx')]
    exact .refused e
  | @given x x' left =>
    have back := second (bound + x.params.length)
    generalize hy : b.run (bound + x.params.length) = y,
      hy' : b'.run (bound + x.params.length) = y' at back
    rw [counts left] at hy'
    cases back with
    | refused e =>
      rw [(run_append_eq_error_iff ..).2 (Or.inr ⟨x, hx, hy⟩),
        (run_append_eq_error_iff ..).2 (Or.inr ⟨x', hx', hy'⟩)]
      exact .refused e
    | @given y y' right =>
      rw [(run_append_eq_ok_iff ..).2 ⟨x, y, hx, hy, rfl⟩,
        (run_append_eq_ok_iff ..).2 ⟨x', y', hx', hy', rfl⟩]
      exact .given (glue hx hy left right)

end Emitter

end SqlSelect
