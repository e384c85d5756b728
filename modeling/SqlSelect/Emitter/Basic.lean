import SqlSelect.Query.Basic
set_option autoImplicit false

/-! Pieces of a statement: SQL text together with the values that its placeholders bind, in order. A
piece depends on what stands before it only through the number of values bound so far. In a template, text of
the caller's own, every `?` stands for the next value. -/
namespace SqlSelect

structure Fragment where
  text : String
  params : List Value

def Fragment.append (a b : Fragment) : Fragment :=
  ⟨a.text ++ b.text, a.params ++ b.params⟩

instance : Append Fragment := ⟨Fragment.append⟩

@[simp] theorem Fragment.append_text (a b : Fragment) : (a ++ b).text = a.text ++ b.text := rfl

@[simp] theorem Fragment.append_params (a b : Fragment) :
    (a ++ b).params = a.params ++ b.params := rfl

/-- Writes a fragment after the given number of bound values, or refuses. -/
def Emitter : Type := Nat → Except Fault Fragment

namespace Emitter

def run (e : Emitter) (bound : Nat) : Except Fault Fragment := e bound

/-- Text that binds nothing. -/
def text (s : String) : Emitter := fun _ => .ok ⟨s, []⟩

/-- Text that comes with values and is written as it is. -/
def verbatim (sql : RawSql) : Emitter := fun _ => .ok ⟨sql.text, sql.args⟩

def fail (e : Fault) : Emitter := fun _ => .error e

/-- The placeholder of the next parameter, binding the value. -/
def parameter (d : Dialect) (v : Value) : Emitter := fun bound => .ok ⟨d.placeholder (bound + 1), [v]⟩

/-- One piece and then another; the second counts on from the values of the first. -/
def append (a b : Emitter) : Emitter := fun bound => do
  let x ← a bound
  let y ← b (bound + x.params.length)
  return x ++ y

instance : Append Emitter := ⟨append⟩

def empty : Emitter := text ""

@[simp] theorem run_text (s : String) (bound : Nat) : (text s).run bound = .ok ⟨s, []⟩ := rfl

@[simp] theorem run_verbatim (sql : RawSql) (bound : Nat) :
    (verbatim sql).run bound = .ok ⟨sql.text, sql.args⟩ := rfl

@[simp] theorem run_fail (e : Fault) (bound : Nat) : (fail e).run bound = .error e := rfl

@[simp] theorem run_parameter (d : Dialect) (v : Value) (bound : Nat) :
    (parameter d v).run bound = .ok ⟨d.placeholder (bound + 1), [v]⟩ := rfl

theorem run_append_eq_ok_iff (a b : Emitter) (bound : Nat) (f : Fragment) :
    (a ++ b).run bound = .ok f ↔
      ∃ x y, a.run bound = .ok x ∧ b.run (bound + x.params.length) = .ok y ∧ f = x ++ y := by
  change (do let x ← a bound; let y ← b (bound + x.params.length); return x ++ y) = _ ↔
    ∃ x y, a bound = .ok x ∧ b (bound + x.params.length) = .ok y ∧ f = x ++ y
  cases ha : a bound with
  | error e => simp [bind, Except.bind]
  | ok x =>
    cases hb : b (bound + x.params.length) with
    | error e => simp [bind, Except.bind, hb]
    | ok y => simp [bind, Except.bind, pure, Except.pure, hb, eq_comm]

theorem run_append_eq_error_iff (a b : Emitter) (bound : Nat) (e : Fault) :
    (a ++ b).run bound = .error e ↔
      a.run bound = .error e ∨
        ∃ x, a.run bound = .ok x ∧ b.run (bound + x.params.length) = .error e := by
  change (do let x ← a bound; let y ← b (bound + x.params.length); return x ++ y) = _ ↔
    a bound = .error e ∨ ∃ x, a bound = .ok x ∧ b (bound + x.params.length) = .error e
  cases ha : a bound with
  | error e' => simp [bind, Except.bind]
  | ok x =>
    cases hb : b (bound + x.params.length) with
    | error e' => simp [bind, Except.bind, hb]
    | ok y => simp [bind, Except.bind, pure, Except.pure, hb]

/-- The pieces in order with the same text between any two. -/
def joined (separator : String) : List Emitter → Emitter
  | [] => empty
  | [e] => e
  | e :: rest => e ++ text separator ++ joined separator rest

/-- The pieces in order, each after the keyword of its link; the first link is not written. -/
def linked : List (Link × Emitter) → Emitter
  | [] => empty
  | (_, e) :: rest => e ++ linkedRest rest
where
  linkedRest : List (Link × Emitter) → Emitter
    | [] => empty
    | (link, e) :: rest => text (" " ++ link.keyword ++ " ") ++ e ++ linkedRest rest

/-- The number of `?` in a template. -/
def markers (template : List Char) : Nat := template.count '?'

/-- A template with the next placeholder for each `?`. -/
def substituted (d : Dialect) : List Char → List Value → Emitter
  | [], _ => empty
  | c :: rest, args =>
    if c = '?' then
      match args with
      | v :: args => parameter d v ++ substituted d rest args
      | [] => substituted d rest []
    else text (String.singleton c) ++ substituted d rest args

/-- A template must have as many markers as values. -/
def template (d : Dialect) (sql : RawSql) : Emitter :=
  if markers sql.text.toList = sql.args.length then substituted d sql.text.toList sql.args
  else fail (.argumentCount (markers sql.text.toList) sql.args.length)

end Emitter

end SqlSelect
