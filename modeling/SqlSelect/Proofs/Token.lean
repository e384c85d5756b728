import Mathlib.Data.List.Basic
import SqlSelect.Placeholder.Shift
set_option autoImplicit false

/-! Reading placeholders in a text that is put together from pieces: what makes a token, when two texts
read together as they read apart, and which texts hold no token at all. -/
namespace SqlSelect.Placeholder

open Text (isDecimalDigit)

def startsWithDigit (text : List Char) : Bool :=
  text.head?.any isDecimalDigit

/-- Whether the marker stands right before a decimal digit anywhere in the text. -/
def holdsToken (marker : List Char) : List Char → Bool
  | [] => false
  | c :: rest => (token? marker (c :: rest)).isSome || holdsToken marker rest

/-- The number of a token, nothing inside when its digits are no number. -/
def Piece.reading? : Piece → Option (Option Nat)
  | .plain _ => none
  | .numbered digits => some (number? digits)

/-- What the tokens of a text read, from left to right. -/
def numbers (marker text : List Char) : List (Option Nat) :=
  (scan marker text).filterMap Piece.reading?

@[simp] theorem startsWithDigit_nil : startsWithDigit [] = false := rfl

@[simp] theorem startsWithDigit_cons (c : Char) (text : List Char) :
    startsWithDigit (c :: text) = isDecimalDigit c := rfl

theorem startsWithDigit_append (s t : List Char) :
    startsWithDigit (s ++ t) = if s = [] then startsWithDigit t else startsWithDigit s := by
  cases s <;> simp

theorem takeWhile_of_not_startsWithDigit {text : List Char} (h : startsWithDigit text = false) :
    text.takeWhile isDecimalDigit = [] := by
  cases text with
  | nil => rfl
  | cons c rest => exact List.takeWhile_cons_of_neg (by simpa using h)

theorem dropWhile_of_not_startsWithDigit {text : List Char} (h : startsWithDigit text = false) :
    text.dropWhile isDecimalDigit = text := by
  cases text with
  | nil => rfl
  | cons c rest => exact List.dropWhile_cons_of_neg (by simpa using h)

theorem not_startsWithDigit_dropWhile (text : List Char) :
    startsWithDigit (text.dropWhile isDecimalDigit) = false := by
  have stop := List.head?_dropWhile_not isDecimalDigit text
  unfold startsWithDigit
  cases h : (text.dropWhile isDecimalDigit).head? with
  | none => rfl
  | some c =>
    rw [h] at stop
    simpa using stop

/-- A token is the marker with digits after it, up to where the digits end. -/
theorem token?_eq_some_iff {marker text digits rest : List Char} :
    token? marker text = some (digits, rest) ↔
      text = marker ++ digits ++ rest ∧ digits ≠ [] ∧ (∀ c ∈ digits, isDecimalDigit c) ∧
        startsWithDigit rest = false := by
  constructor
  · intro token
    obtain ⟨split, nonempty⟩ := token?_eq_some token
    simp only [token?, Option.bind_eq_some_iff, Option.ite_none_left_eq_some, Option.some.injEq,
      Prod.mk.injEq] at token
    obtain ⟨tail, -, -, rfl, rfl⟩ := token
    exact ⟨split, nonempty, List.all_eq_true.1 List.all_takeWhile,
      not_startsWithDigit_dropWhile tail⟩
  · rintro ⟨rfl, nonempty, decimal, ended⟩
    have after : afterMarker? marker (marker ++ digits ++ rest) = some (digits ++ rest) :=
      afterMarker?_eq_some_iff.2 (List.append_assoc ..)
    have run : (digits ++ rest).takeWhile isDecimalDigit = digits := by
      rw [List.takeWhile_append_of_pos decimal, takeWhile_of_not_startsWithDigit ended,
        List.append_nil]
    have tail : (digits ++ rest).dropWhile isDecimalDigit = rest := by
      rw [List.dropWhile_append_of_pos decimal, dropWhile_of_not_startsWithDigit ended]
    rw [token?, after, Option.bind_some, run, tail]
    simp [nonempty]

theorem token?_isSome_iff {marker text : List Char} :
    (token? marker text).isSome ↔
      ∃ tail, text = marker ++ tail ∧ startsWithDigit tail := by
  constructor
  · intro found
    obtain ⟨⟨digits, rest⟩, token⟩ := Option.isSome_iff_exists.1 found
    obtain ⟨split, nonempty, decimal, -⟩ := token?_eq_some_iff.1 token
    refine ⟨digits ++ rest, by rw [split, List.append_assoc], ?_⟩
    cases digits with
    | nil => exact absurd rfl nonempty
    | cons c digits => exact decimal c List.mem_cons_self
  · rintro ⟨tail, rfl, digit⟩
    have after : afterMarker? marker (marker ++ tail) = some tail :=
      afterMarker?_eq_some_iff.2 rfl
    cases tail with
    | nil => cases digit
    | cons c tail =>
      have decimal : isDecimalDigit c := digit
      simp [token?, after, decimal]

theorem scan_of_token {marker text digits rest : List Char}
    (token : token? marker text = some (digits, rest)) :
    scan marker text = .numbered digits :: scan marker rest := by
  rw [scan]
  split
  · rename_i found
    rw [token] at found
    cases found
    rfl
  · rename_i none
    rw [token] at none
    cases none

theorem scan_of_no_token {marker rest : List Char} {c : Char}
    (token : token? marker (c :: rest) = none) :
    scan marker (c :: rest) = .plain c :: scan marker rest := by
  rw [scan]
  split
  · rename_i found
    rw [token] at found
    cases found
  · rfl

@[simp] theorem scan_nil (marker : List Char) : scan marker [] = [] := by
  rw [scan]
  split
  · rename_i found
    have shorter := length_lt_of_token? found
    simp at shorter
  · rfl

/-- A text without a token is read character by character. -/
theorem scan_of_not_holdsToken {marker text : List Char} (h : holdsToken marker text = false) :
    scan marker text = text.map .plain := by
  induction text with
  | nil => exact scan_nil marker
  | cons c rest ih =>
    simp only [holdsToken, Bool.or_eq_false_iff, Option.isSome_eq_false_iff,
      Option.isNone_iff_eq_none] at h
    rw [scan_of_no_token h.1, ih h.2, List.map_cons]

@[simp] theorem holdsToken_nil (marker : List Char) : holdsToken marker [] = false := rfl

theorem holdsToken_iff {marker text : List Char} :
    holdsToken marker text ↔
      ∃ before tail, text = before ++ marker ++ tail ∧ startsWithDigit tail := by
  induction text with
  | nil =>
    constructor
    · intro impossible
      cases impossible
    · rintro ⟨before, tail, split, digit⟩
      obtain ⟨-, rfl⟩ := List.append_eq_nil_iff.1 split.symm
      cases digit
  | cons c rest ih =>
    rw [holdsToken, Bool.or_eq_true, token?_isSome_iff, ih]
    constructor
    · rintro (⟨tail, split, digit⟩ | ⟨before, tail, split, digit⟩)
      · exact ⟨[], tail, split, digit⟩
      · exact ⟨c :: before, tail, by rw [split]; rfl, digit⟩
    · rintro ⟨before, tail, split, digit⟩
      cases before with
      | nil => exact Or.inl ⟨tail, split, digit⟩
      | cons b before => exact Or.inr ⟨before, tail, (List.cons.inj split).2, digit⟩

/-- No part of a text without a token holds one. -/
theorem not_holdsToken_of_infix {marker s t : List Char} (inside : s <:+: t)
    (h : holdsToken marker t = false) : holdsToken marker s = false := by
  rw [← Bool.not_eq_true] at h ⊢
  intro found
  obtain ⟨before, tail, rfl, digit⟩ := holdsToken_iff.1 found
  obtain ⟨front, back, rfl⟩ := inside
  refine h (holdsToken_iff.2 ⟨front ++ before, tail ++ back, by simp, ?_⟩)
  rw [startsWithDigit_append]
  split
  · subst tail
    cases digit
  · exact digit

theorem not_holdsToken_of_no_digit {marker text : List Char}
    (noDigit : text.all fun c => !isDecimalDigit c) : holdsToken marker text = false := by
  rw [← Bool.not_eq_true]
  intro found
  obtain ⟨before, tail, rfl, digit⟩ := holdsToken_iff.1 found
  cases tail with
  | nil => cases digit
  | cons c tail =>
    have decimal : isDecimalDigit c := digit
    simp [decimal] at noDigit

section OneCharacter

variable {m c : Char} {s t : List Char}

theorem token?_singleton_isSome :
    (token? [m] (c :: t)).isSome = (decide (c = m) && startsWithDigit t) := by
  rw [Bool.eq_iff_iff, token?_isSome_iff, Bool.and_eq_true, decide_eq_true_eq]
  constructor
  · rintro ⟨tail, split, digit⟩
    obtain ⟨rfl, rfl⟩ := List.cons.inj split
    exact ⟨rfl, digit⟩
  · rintro ⟨rfl, digit⟩
    exact ⟨t, rfl, digit⟩

/-- With other text behind it, a character starts no token unless a digit has come next to it. -/
theorem token?_singleton_of_like (none : token? [m] (c :: s) = none)
    (like : c ≠ m ∨ startsWithDigit t = startsWithDigit s) : token? [m] (c :: t) = Option.none := by
  rw [← Option.isNone_iff_eq_none, ← Option.isSome_eq_false_iff] at none ⊢
  rw [token?_singleton_isSome] at none ⊢
  rcases like with other | like
  · simp [other]
  · rw [like, none]

theorem holdsToken_cons :
    holdsToken [m] (c :: t) = ((decide (c = m) && startsWithDigit t) || holdsToken [m] t) := by
  rw [holdsToken, token?_singleton_isSome]

theorem not_holdsToken_of_not_mem (absent : m ∉ t) : holdsToken [m] t = false := by
  induction t with
  | nil => rfl
  | cons c t ih =>
    rw [List.mem_cons, not_or] at absent
    rw [holdsToken_cons, ih absent.2]
    simp [Ne.symm absent.1]

theorem holdsToken_append (apart : startsWithDigit t = false ∨ ∀ c ∈ s.getLast?, c ≠ m) :
    holdsToken [m] (s ++ t) = (holdsToken [m] s || holdsToken [m] t) := by
  induction s with
  | nil => rfl
  | cons c s ih =>
    have apart' : startsWithDigit t = false ∨ ∀ c ∈ s.getLast?, c ≠ m :=
      apart.imp_right fun closed x inside => closed x (List.mem_getLast?_cons inside)
    have first : (decide (c = m) && startsWithDigit (s ++ t)) =
        (decide (c = m) && startsWithDigit s) := by
      rw [startsWithDigit_append]
      split
      · subst s
        rcases apart with ended | closed
        · rw [ended, startsWithDigit_nil]
        · simp [closed c rfl]
      · rfl
    rw [List.cons_append, holdsToken_cons, holdsToken_cons, ih apart', first, Bool.or_assoc]

theorem scan_cons_plain (apart : c ≠ m ∨ startsWithDigit t = false) :
    scan [m] (c :: t) = .plain c :: scan [m] t := by
  apply scan_of_no_token
  rw [← Option.isNone_iff_eq_none, ← Option.isSome_eq_false_iff, token?_singleton_isSome]
  rcases apart with other | ended
  · simp [other]
  · simp [ended]

theorem scan_written {digits : List Char} (nonempty : digits ≠ [])
    (decimal : ∀ c ∈ digits, isDecimalDigit c) (ended : startsWithDigit t = false) :
    scan [m] (m :: digits ++ t) = .numbered digits :: scan [m] t :=
  scan_of_token (token?_eq_some_iff.2 ⟨rfl, nonempty, decimal, ended⟩)

/-- Two texts read together as they read apart when no token can reach from the one into the other. -/
theorem scan_append
    (apart : startsWithDigit t = false ∨ ∀ c ∈ s.getLast?, c ≠ m ∧ isDecimalDigit c = false) :
    scan [m] (s ++ t) = scan [m] s ++ scan [m] t := by
  fun_induction scan [m] s with
  | case1 text digits rest token ih =>
    obtain ⟨rfl, nonempty, decimal, ended⟩ := token?_eq_some_iff.1 token
    have ended' : startsWithDigit (rest ++ t) = false := by
      rw [startsWithDigit_append]
      split
      · subst rest
        rcases apart with ended | closed
        · exact ended
        · have last := List.getLast?_eq_some_getLast nonempty
          have inside : digits.getLast nonempty ∈ ([m] ++ digits ++ []).getLast? := by
            rw [List.append_nil, List.getLast?_append, last]
            rfl
          have digit := decimal _ (List.getLast_mem nonempty)
          rw [(closed _ inside).2] at digit
          cases digit
      · exact ended
    have apart' : startsWithDigit t = false ∨
        ∀ c ∈ rest.getLast?, c ≠ m ∧ isDecimalDigit c = false :=
      apart.imp_right fun closed c inside =>
        closed c (List.mem_getLast?_append_of_mem_getLast? inside)
    rw [List.append_assoc, List.append_assoc]
    have whole := scan_of_token (token?_eq_some_iff.2
      ⟨(List.append_assoc [m] digits (rest ++ t)).symm, nonempty, decimal, ended'⟩)
    rw [whole, ih apart', List.cons_append]
  | case2 => rfl
  | case3 c rest token ih =>
    have apart' : startsWithDigit t = false ∨
        ∀ c ∈ rest.getLast?, c ≠ m ∧ isDecimalDigit c = false :=
      apart.imp_right fun closed x inside => closed x (List.mem_getLast?_cons inside)
    have plain : c ≠ m ∨ startsWithDigit (rest ++ t) = false := by
      have none : (decide (c = m) && startsWithDigit rest) = false := by
        rw [← token?_singleton_isSome, token]
        rfl
      by_cases same : c = m
      · right
        rw [startsWithDigit_append]
        split
        · subst rest
          rcases apart with ended | closed
          · exact ended
          · exact absurd same (closed c rfl).1
        · simpa [same] using none
      · exact Or.inl same
    rw [List.cons_append, scan_cons_plain plain, ih apart', List.cons_append]

end OneCharacter

end SqlSelect.Placeholder
