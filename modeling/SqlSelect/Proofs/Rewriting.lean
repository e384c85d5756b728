import SqlSelect.Proofs.Renumber
set_option autoImplicit false

/-! Tokens replaced by other text, marker and all. What is replaced may be renumbered before or after. -/
namespace SqlSelect.Placeholder

open Text (isDecimalDigit)

/-- The text with every token replaced by what `write` makes of its digits. -/
def rewritten (marker : List Char) (write : List Char → List Char) (text : List Char) : List Char :=
  (scan marker text).flatMap fun
    | .plain c => [c]
    | .numbered digits => write digits

section Marker

variable {marker : List Char} (write : List Char → List Char)

theorem rewritten_of_token {text digits rest : List Char}
    (token : token? marker text = some (digits, rest)) :
    rewritten marker write text = write digits ++ rewritten marker write rest := by
  simp only [rewritten, scan_of_token token, List.flatMap_cons]

theorem rewritten_of_no_token {rest : List Char} {c : Char}
    (token : token? marker (c :: rest) = none) :
    rewritten marker write (c :: rest) = c :: rewritten marker write rest := by
  simp only [rewritten, scan_of_no_token token, List.flatMap_cons, List.singleton_append]

theorem rewritten_of_not_holdsToken {text : List Char} (free : holdsToken marker text = false) :
    rewritten marker write text = text := by
  simp only [rewritten, scan_of_not_holdsToken free, List.flatMap_map]
  exact List.flatMap_singleton' text

/-- Digits that are written anew first are what is then replaced. -/
theorem rewritten_respell {f : List Char → List Char} (free : DigitFree marker) (keeps : KeepsNumbers f)
    (text : List Char) :
    rewritten marker write (respell marker f text) =
      rewritten marker (fun digits => write (f digits)) text := by
  simp only [rewritten, scan_respell free keeps, List.flatMap_map]
  refine List.flatMap_congr fun p _ => ?_
  cases p <;> rfl

/-- Written behind another marker, the pieces are the same. -/
theorem rewritten_eq_unscan (other text : List Char) :
    rewritten marker (fun digits => other ++ digits) text = unscan other (scan marker text) :=
  rfl

end Marker

section OneCharacter

variable {m n : Char} {write : List Char → List Char} {s t : List Char}

theorem rewritten_cons_plain {c : Char} (apart : c ≠ m ∨ startsWithDigit t = false) :
    rewritten [m] write (c :: t) = c :: rewritten [m] write t := by
  simp only [rewritten, scan_cons_plain apart, List.flatMap_cons, List.singleton_append]

theorem rewritten_placeholder (k : Nat) (ended : startsWithDigit t = false) :
    rewritten [m] write (m :: Nat.toDigits 10 k ++ t) =
      write (Nat.toDigits 10 k) ++ rewritten [m] write t := by
  simp only [rewritten, scan_placeholder k ended, List.flatMap_cons]

theorem rewritten_append
    (apart : startsWithDigit t = false ∨ ∀ c ∈ s.getLast?, c ≠ m ∧ isDecimalDigit c = false) :
    rewritten [m] write (s ++ t) = rewritten [m] write s ++ rewritten [m] write t := by
  simp only [rewritten, scan_append apart, List.flatMap_append]

/-- A text starts with a digit after the rewriting when it did before, since no token does. -/
theorem startsWithDigit_rewritten (notDigit : isDecimalDigit m = false)
    (ended : ∀ digits rest, startsWithDigit (write digits ++ rest) = false) (text : List Char) :
    startsWithDigit (rewritten [m] write text) = startsWithDigit text := by
  cases text with
  | nil => simp only [rewritten, scan_nil, List.flatMap_nil]
  | cons c rest =>
    cases token : token? [m] (c :: rest) with
    | none =>
      rw [rewritten_of_no_token write token]
      rfl
    | some found =>
      obtain ⟨digits, tail⟩ := found
      obtain ⟨split, -⟩ := token?_eq_some token
      have front : c = m := (List.cons.inj split).1
      rw [rewritten_of_token write token, ended, startsWithDigit_cons, front, notDigit]

/-- Where the new marker stood before no digit, the rewritten text is read as the text was. -/
theorem scan_rewritten (notDigit : isDecimalDigit m = false) (notDigit' : isDecimalDigit n = false)
    (free : holdsToken [n] s = false) :
    scan [n] (rewritten [m] (fun digits => n :: digits) s) = scan [m] s := by
  have starts : ∀ text, startsWithDigit (rewritten [m] (fun digits => n :: digits) text) =
      startsWithDigit text :=
    startsWithDigit_rewritten notDigit fun _ _ => notDigit'
  fun_induction scan [m] s with
  | case1 text digits rest token ih =>
    obtain ⟨rfl, nonempty, decimal, ended⟩ := token?_eq_some_iff.1 token
    have free' : holdsToken [n] rest = false :=
      not_holdsToken_of_infix (List.suffix_append _ _).isInfix free
    have ended' : startsWithDigit (rewritten [m] (fun digits => n :: digits) rest) = false :=
      (starts rest).trans ended
    rw [rewritten_of_token _ token, scan_written nonempty decimal ended', ih free']
  | case2 => simp only [rewritten, scan_nil, List.flatMap_nil]
  | case3 c rest token ih =>
    rw [holdsToken_cons, Bool.or_eq_false_iff, Bool.and_eq_false_iff, decide_eq_false_iff_not] at free
    have plain : c ≠ n ∨ startsWithDigit (rewritten [m] (fun digits => n :: digits) rest) = false :=
      free.1.imp_right (starts rest).trans
    rw [rewritten_of_no_token _ token, scan_cons_plain plain, ih free.2]

/-- Another character comes to stand before a digit only where it did. -/
theorem holdsToken_respell {f : List Char → List Char} (other : m ≠ n)
    (notDigit : isDecimalDigit m = false) (notDigit' : isDecimalDigit n = false)
    (keeps : KeepsNumbers f) (text : List Char) :
    holdsToken [n] (respell [m] f text) = holdsToken [n] text := by
  have digitFree := digitFree_singleton notDigit
  -- A token holds no other marker, and no digit stands right behind it.
  have skipped : ∀ digits rest : List Char, (∀ c ∈ digits, isDecimalDigit c) →
      startsWithDigit rest = false →
      holdsToken [n] ([m] ++ digits ++ rest) = holdsToken [n] rest := by
    intro digits rest decimal ended
    have absent : n ∉ [m] ++ digits := by
      rw [List.singleton_append, List.mem_cons, not_or]
      refine ⟨Ne.symm other, fun inside => ?_⟩
      have digit := decimal n inside
      rw [notDigit'] at digit
      cases digit
    rw [holdsToken_append (Or.inl ended), not_holdsToken_of_not_mem absent, Bool.false_or]
  fun_induction scan [m] text with
  | case1 text digits rest token ih =>
    obtain ⟨rfl, nonempty, decimal, ended⟩ := token?_eq_some_iff.1 token
    have ended' : startsWithDigit (respell [m] f rest) = false :=
      (startsWithDigit_respell digitFree keeps rest).trans ended
    rw [respell_of_token f token, skipped _ _ (keeps digits nonempty decimal).2 ended', ih,
      skipped _ _ decimal ended]
  | case2 => rw [respell_nil]
  | case3 c rest token ih =>
    rw [respell_of_no_token f token, holdsToken_cons, holdsToken_cons, ih,
      startsWithDigit_respell digitFree keeps]

theorem holdsToken_shiftChars (other : m ≠ n) (notDigit : isDecimalDigit m = false)
    (notDigit' : isDecimalDigit n = false) (offset : Nat) (text : List Char) :
    holdsToken [n] (shiftChars [m] [m] offset text) = holdsToken [n] text := by
  by_cases none : offset = 0
  · rw [none, shiftChars_zero]
  · rw [shiftChars_eq_respell [m] none]
    exact holdsToken_respell other notDigit notDigit' (keepsNumbers_raise offset) text

/-- Placeholders may be raised before they are written behind another marker, or after. -/
theorem shiftChars_rewritten (notDigit : isDecimalDigit m = false) (notDigit' : isDecimalDigit n = false)
    (offset : Nat) (free : holdsToken [n] s = false) :
    shiftChars [n] [n] offset (rewritten [m] (fun digits => n :: digits) s) =
      rewritten [m] (fun digits => n :: digits) (shiftChars [m] [m] offset s) := by
  have digitFree := digitFree_singleton notDigit
  by_cases none : offset = 0
  · rw [none, shiftChars_zero, shiftChars_zero]
  · have keeps := keepsNumbers_raise offset
    calc shiftChars [n] [n] offset (rewritten [m] (fun digits => n :: digits) s)
        = unscan [n] ((scan [m] s).map (Piece.mapDigits (raise offset))) := by
          rw [shiftChars_eq_respell [n] none, respell, scan_rewritten notDigit notDigit' free]
      _ = unscan [n] (scan [m] (respell [m] (raise offset) s)) := by
          rw [scan_respell digitFree keeps]
      _ = rewritten [m] (fun digits => n :: digits) (shiftChars [m] [m] offset s) := by
          rw [shiftChars_eq_respell [m] none]
          exact (rewritten_eq_unscan [n] _).symm

/-- Written without their numbers, placeholders are the same before and after they are raised. -/
theorem rewritten_shiftChars (notDigit : isDecimalDigit m = false) (bare : List Char) (offset : Nat) :
    rewritten [m] (fun _ => bare) (shiftChars [m] [m] offset s) = rewritten [m] (fun _ => bare) s := by
  have digitFree := digitFree_singleton notDigit
  by_cases none : offset = 0
  · rw [none, shiftChars_zero]
  · rw [shiftChars_eq_respell [m] none, rewritten_respell _ digitFree (keepsNumbers_raise offset)]

end OneCharacter

end SqlSelect.Placeholder
