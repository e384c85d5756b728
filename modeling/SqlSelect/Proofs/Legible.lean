import Mathlib.Data.List.Basic
import SqlSelect.Proofs.Seam
set_option autoImplicit false

/-! Telling two pieces of a statement apart by reading. Where two legible pieces begin the same statement, they
say the same, and the statement goes on in the same way behind them. -/
namespace SqlSelect

theorem Fragment.append_eq_append_iff {x y r s : Fragment} :
    x ++ r = y ++ s ↔ x.text.toList ++ r.text.toList = y.text.toList ++ s.text.toList ∧
      x.params ++ r.params = y.params ++ s.params := by
  constructor
  · intro same
    have text := congrArg (fun f : Fragment => f.text.toList) same
    simp only [append_text, String.toList_append] at text
    exact ⟨text, congrArg Fragment.params same⟩
  · rintro ⟨text, params⟩
    rw [← String.toList_append, ← String.toList_append] at text
    exact congrArg₂ Fragment.mk (String.toList_injective text) params

namespace Emitter

/-- The fragment is empty or begins with one of these characters. -/
def Follows (allowed : Char → Bool) (f : Fragment) : Prop :=
  f.text.toList.head?.all allowed

/-- What is written begins with one of these characters. -/
def Begins (kind : Char → Bool) (e : Emitter) : Prop :=
  ∀ bound f, e.run bound = .ok f → f.text.toList.head?.any kind

/-- Written after as many values, and with something allowed behind them, the two emitters begin the same
statement only if they say the same, and then they leave the same behind them. -/
def Legible (allowed : Char → Bool) (a b : Emitter) (same : Prop) : Prop :=
  ∀ bound x y r s, a.run bound = .ok x → b.run bound = .ok y → Follows allowed r → Follows allowed s →
    x ++ r = y ++ s → same ∧ r = s

/-- Anything may follow. -/
def anything : Char → Bool := fun _ => true

theorem follows_anything (f : Fragment) : Follows anything f := by
  unfold Follows
  cases f.text.toList.head? <;> rfl

variable {allowed : Char → Bool} {a a' b b' : Emitter} {same same' : Prop}

section Begins

variable {kind : Char → Bool}

theorem begins_text {s : String} (first : s.toList.head?.any kind) : (text s).Begins kind := by
  intro bound f written
  cases written
  exact first

theorem head?_append_of_begins (begins : a.Begins kind) {bound : Nat} {x : Fragment}
    (written : a.run bound = .ok x) (r : Fragment) :
    ∃ c, (x ++ r).text.toList.head? = some c ∧ kind c := by
  obtain ⟨c, first, known⟩ := (Option.any_eq_true ..).1 (begins bound x written)
  refine ⟨c, ?_, known⟩
  rw [Fragment.append_text, String.toList_append, List.head?_append, first, Option.some_or]

theorem Begins.mono {wider : Char → Bool} (begins : a.Begins kind) (within : ∀ c, kind c → wider c) :
    a.Begins wider := by
  intro bound f written
  obtain ⟨c, head, known⟩ := (Option.any_eq_true ..).1 (begins bound f written)
  rw [head]
  exact within c known

theorem Begins.append (first : a.Begins kind) : (a ++ b).Begins kind := by
  intro bound f written
  obtain ⟨x, y, hx, -, rfl⟩ := (run_append_eq_ok_iff ..).1 written
  obtain ⟨c, head, known⟩ := head?_append_of_begins first hx y
  rw [head]
  exact known

theorem Begins.follows (begins : a.Begins kind) (within : ∀ c, kind c → allowed c) {bound : Nat}
    {x : Fragment} (written : a.run bound = .ok x) (r : Fragment) : Follows allowed (x ++ r) := by
  obtain ⟨c, head, known⟩ := head?_append_of_begins begins written r
  rw [Follows, head]
  exact within c known

end Begins

theorem Legible.symm (legible : a.Legible allowed b same) : b.Legible allowed a same := by
  intro bound x y r s hx hy behindX behindY equal
  obtain ⟨alike, rest⟩ := legible bound y x s r hy hx behindY behindX equal.symm
  exact ⟨alike, rest.symm⟩

theorem Legible.imp (legible : a.Legible allowed b same) (weaker : same → same') :
    a.Legible allowed b same' := by
  intro bound x y r s hx hy behindX behindY equal
  exact (legible bound x y r s hx hy behindX behindY equal).imp_left weaker

/-- Pieces that begin differently are told apart at once. -/
theorem legible_of_begins {kind kind' : Char → Bool} (first : a.Begins kind) (second : b.Begins kind')
    (apart : ∀ c, kind c → kind' c = false) : a.Legible allowed b same := by
  intro bound x y r s hx hy _ _ equal
  obtain ⟨c, head, known⟩ := head?_append_of_begins first hx r
  obtain ⟨c', head', known'⟩ := head?_append_of_begins second hy s
  rw [equal, head'] at head
  cases head
  rw [apart c known] at known'
  cases known'

/-- An empty piece is told from one that begins as nothing behind it may. -/
theorem legible_empty {kind : Char → Bool} (second : b.Begins kind)
    (apart : ∀ c, kind c → allowed c = false) : empty.Legible allowed b same := by
  intro bound x y r s hx hy behind _ equal
  cases hx
  obtain ⟨c, head, known⟩ := head?_append_of_begins second hy s
  rw [← equal, Fragment.empty_append] at head
  rw [Follows, head, Option.all_some, apart c known] at behind
  cases behind

/-- Of two texts that do not begin alike, only one begins a statement. -/
theorem legible_text {s t : String}
    (apart : s.toList <+: t.toList ∨ t.toList <+: s.toList → s = t) :
    (text s).Legible allowed (text t) (s = t) := by
  intro bound x y r r' hx hy _ _ equal
  cases hx
  cases hy
  obtain ⟨texts, params⟩ := Fragment.append_eq_append_iff.1 equal
  have front : s.toList <+: t.toList ++ r'.text.toList := ⟨_, texts⟩
  have same : s = t := apart (List.prefix_or_prefix_of_prefix front (List.prefix_append ..))
  subst same
  refine ⟨rfl, ?_⟩
  exact congrArg₂ Fragment.mk (String.toList_injective (List.append_cancel_left texts)) params

theorem legible_same (s : String) (holds : same) : (text s).Legible allowed (text s) same :=
  (legible_text fun _ => rfl).imp fun _ => holds

/-- Words for which no one begins another tell apart what they stand for. -/
theorem legible_words {α : Type} {words : α → String} {u v : α}
    (apart : (words u).toList <+: (words v).toList ∨ (words v).toList <+: (words u).toList → u = v) :
    (text (words u)).Legible allowed (text (words v)) (u = v) := by
  refine (legible_text fun either => congrArg words (apart either)).imp fun same => ?_
  exact apart (Or.inl (same ▸ List.prefix_rfl))

/-- A placeholder says nothing, but its value does. -/
theorem legible_parameter (d : Dialect) (v w : Value) :
    (parameter d v).Legible allowed (parameter d w) (v = w) := by
  intro bound x y r s hx hy _ _ equal
  cases hx
  cases hy
  obtain ⟨texts, params⟩ := Fragment.append_eq_append_iff.1 equal
  obtain ⟨values, rest⟩ := List.cons.inj params
  refine ⟨values, ?_⟩
  exact congrArg₂ Fragment.mk (String.toList_injective (List.append_cancel_left texts)) rest

/-- Behind pieces that say the same, the next ones are written after as many values. -/
theorem Legible.append {follow : Char → Bool} (first : a.Legible follow b same)
    (second : same → a'.Legible allowed b' same')
    (leads : ∀ bound x r, a'.run bound = .ok x → Follows allowed r → Follows follow (x ++ r))
    (leads' : ∀ bound x r, b'.run bound = .ok x → Follows allowed r → Follows follow (x ++ r)) :
    (a ++ a').Legible allowed (b ++ b') (same ∧ same') := by
  intro bound f g r s hf hg behindF behindG equal
  obtain ⟨x, x', hx, hx', rfl⟩ := (run_append_eq_ok_iff ..).1 hf
  obtain ⟨y, y', hy, hy', rfl⟩ := (run_append_eq_ok_iff ..).1 hg
  rw [Fragment.append_assoc, Fragment.append_assoc] at equal
  obtain ⟨alike, rest⟩ := first bound x y _ _ hx hy (leads _ x' r hx' behindF)
    (leads' _ y' s hy' behindG) equal
  -- The texts alone do not tell how many values the first pieces bind; the parameters behind them do.
  have counts : x.params.length = y.params.length := by
    have params := (Fragment.append_eq_append_iff.1 equal).2
    rw [rest] at params
    exact congrArg List.length (List.append_cancel_right params)
  rw [counts] at hx'
  obtain ⟨alike', behind⟩ := second alike _ x' y' r s hx' hy' behindF behindG rest
  exact ⟨⟨alike, alike'⟩, behind⟩

/-- Where anything may follow the first pieces, nothing is asked of the second ones. -/
theorem Legible.append_anything (first : a.Legible anything b same)
    (second : same → a'.Legible allowed b' same') : (a ++ a').Legible allowed (b ++ b') (same ∧ same') :=
  first.append second (fun _ x r _ _ => follows_anything (x ++ r)) fun _ x r _ _ =>
    follows_anything (x ++ r)

/-- The same text in front makes no difference. -/
theorem Legible.led (second : a.Legible allowed b same) (s : String) :
    (text s ++ a).Legible allowed (text s ++ b) same := by
  have first : (text s).Legible anything (text s) True := legible_same s trivial
  exact (first.append_anything fun _ => second).imp And.right

/-- A list of values in brackets, up to the closing one. -/
theorem legible_members (d : Dialect) {members members' : List Value} (written : members ≠ [])
    (written' : members' ≠ []) :
    (joined ", " (members.map (parameter d)) ++ text ")").Legible anything
      (joined ", " (members'.map (parameter d)) ++ text ")") (members = members') := by
  have goesOn (v : Value) {members : List Value} (more : members ≠ []) :
      joined ", " ((v :: members).map (parameter d)) ++ text ")" =
        parameter d v ++ (text ", " ++ (joined ", " (members.map (parameter d)) ++ text ")")) := by
    cases members with
    | nil => exact absurd rfl more
    | cons w members => simp only [List.map_cons, joined, append_assoc]
  have bracket : (text ")").Begins fun c => c = ')' := begins_text (by decide)
  have comma : (text ", ").Begins fun c => c = ',' := begins_text (by decide)
  have closes (e : Emitter) : (text ")").Legible anything (text ", " ++ e) False :=
    legible_of_begins bracket comma.append (by simp)
  have closed : (text ")").Legible anything (text ")") True := legible_same ")" trivial
  induction members generalizing members' with
  | nil => exact absurd rfl written
  | cons v members ih =>
    cases members' with
    | nil => exact absurd rfl written'
    | cons w members' =>
      have first : (parameter d v).Legible anything (parameter d w) (v = w) := legible_parameter d v w
      by_cases last : members = []
      · by_cases last' : members' = []
        · subst last last'
          exact (first.append_anything fun _ => closed).imp fun same => congrArg (· :: []) same.1
        · subst last
          rw [goesOn w last']
          exact (first.append_anything fun _ => closes _).imp fun same => same.2.elim
      · by_cases last' : members' = []
        · subst last'
          rw [goesOn v last]
          exact (first.append_anything fun _ => (closes _).symm).imp fun same => same.2.elim
        · rw [goesOn v last, goesOn w last']
          have rest := (ih last last').led ", "
          exact (first.append_anything fun _ => rest).imp fun same =>
            congrArg₂ List.cons same.1 same.2

end Emitter

end SqlSelect
