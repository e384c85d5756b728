import SqlSelect.Proofs.Substitution
set_option autoImplicit false

/-! Texts that are renumbered piece by piece. A text may be cut anywhere but in front of a digit: there the number
of a token could run on from one piece into the next. -/
namespace SqlSelect

open Placeholder
open Text (isDecimalDigit)

theorem not_startsWithDigit_join {pieces : List String}
    (apart : ∀ t ∈ pieces, startsWithDigit t.toList = false) :
    startsWithDigit (String.join pieces).toList = false := by
  induction pieces with
  | nil => rfl
  | cons t pieces ih =>
    obtain ⟨first, others⟩ := List.forall_mem_cons.1 apart
    rw [String.join_cons, String.toList_append, startsWithDigit_append]
    split
    · exact ih others
    · exact first

namespace Placeholder

variable {m : Char}

/-- Digits without a marker in front are no token. -/
theorem shiftChars_digits (notDigit : isDecimalDigit m = false) (offset : Nat) {digits : List Char}
    (decimal : ∀ c ∈ digits, isDecimalDigit c) : shiftChars [m] [m] offset digits = digits := by
  have absent : m ∉ digits := fun inside => by
    have digit := decimal m inside
    rw [notDigit] at digit
    cases digit
  exact shiftChars_of_not_holdsToken offset (not_holdsToken_of_not_mem absent)

/-- One can be raised up to the largest number, a number with more digits behind it cannot be raised so far. -/
theorem raise_one_append {digits : List Char} (more : digits ≠ []) :
    raise (maxNumber - 1) ('1' :: digits) = '1' :: digits := by
  unfold raise
  cases read : number? ('1' :: digits) with
  | none => rfl
  | some n =>
    rw [number?, Option.ite_none_right_eq_some] at read
    have larger : 1 < n := by
      rw [← Option.some.inj read.2]
      exact lt_ofDigitChars_toDigits_append Nat.one_pos more
    have exceeds : ¬ n + (maxNumber - 1) ≤ maxNumber := by
      unfold maxNumber
      omega
    simp only [exceeds, ↓reduceIte]

/-- A placeholder takes in the digits behind it, so it cannot be raised as it would be alone. -/
theorem shiftChars_one_append_ne (notDigit : isDecimalDigit m = false) {text : List Char}
    (digit : startsWithDigit text) :
    shiftChars [m] [m] (maxNumber - 1) (m :: '1' :: text) ≠
      shiftChars [m] [m] (maxNumber - 1) [m, '1'] ++ shiftChars [m] [m] (maxNumber - 1) text := by
  -- The placeholder alone is raised as far as a number can go; the longer number behind it is left as it was.
  have shifts : maxNumber - 1 ≠ 0 := by decide
  obtain ⟨digits, rest, cut, more, decimal, ended⟩ : ∃ digits rest, text = digits ++ rest ∧
      digits ≠ [] ∧ (∀ c ∈ digits, isDecimalDigit c) ∧ startsWithDigit rest = false :=
    ⟨_, _, List.takeWhile_append_dropWhile.symm, takeWhile_ne_nil_of_startsWithDigit digit,
      List.all_eq_true.1 List.all_takeWhile, not_startsWithDigit_dropWhile text⟩
  have together : shiftChars [m] [m] (maxNumber - 1) (m :: '1' :: text) =
      [m, '1'] ++ (digits ++ shiftChars [m] [m] (maxNumber - 1) rest) := by
    have token : token? [m] (m :: '1' :: text) = some ('1' :: digits, rest) :=
      token?_eq_some_iff.2 ⟨by rw [cut]; rfl, List.cons_ne_nil _ _,
        List.forall_mem_cons.2 ⟨by decide, decimal⟩, ended⟩
    rw [shiftChars_eq_respell _ shifts, respell_of_token _ token, raise_one_append more,
      ← shiftChars_eq_respell _ shifts]
    simp only [List.cons_append, List.nil_append]
  have alone : shiftChars [m] [m] (maxNumber - 1) [m, '1'] = m :: Nat.toDigits 10 maxNumber := by
    have raised : shiftChars [m] [m] (maxNumber - 1) (m :: Nat.toDigits 10 1 ++ []) =
        m :: Nat.toDigits 10 maxNumber ++ shiftChars [m] [m] (maxNumber - 1) [] :=
      shiftChars_placeholder (by decide) rfl
    rwa [shiftChars_of_not_holdsToken _ (holdsToken_nil _), List.append_nil, List.append_nil] at raised
  have behind : shiftChars [m] [m] (maxNumber - 1) text =
      digits ++ shiftChars [m] [m] (maxNumber - 1) rest := by
    rw [cut, shiftChars_append _ (Or.inl ended), shiftChars_digits notDigit _ decimal]
  rw [together, alone, behind]
  intro same
  have numerals := (List.cons.inj (List.append_cancel_right same)).2
  exact absurd numerals (by decide)

end Placeholder

namespace Dialect

section Marked

variable {d : Dialect} {m : Char} (marked : d.MarkedBy m)

include marked

theorem MarkedBy.renumber_append (offset : Nat) (s : String) {t : String}
    (apart : startsWithDigit t.toList = false) :
    d.renumber offset (s ++ t) = d.renumber offset s ++ d.renumber offset t := by
  rw [marked.renumber_eq, marked.renumber_eq, marked.renumber_eq, String.toList_append,
    shiftChars_append offset (Or.inl apart), String.ofList_append]

theorem MarkedBy.renumber_append_iff (t : String) :
    (∀ s offset, d.renumber offset (s ++ t) = d.renumber offset s ++ d.renumber offset t) ↔
      startsWithDigit t.toList = false := by
  constructor
  · intro distributes
    rw [← Bool.not_eq_true]
    intro digit
    have same := distributes (String.ofList [m, '1']) (maxNumber - 1)
    rw [marked.renumber_eq, marked.renumber_eq, marked.renumber_eq, String.toList_append,
      String.toList_ofList, ← String.ofList_append, String.ofList_inj] at same
    exact shiftChars_one_append_ne marked.notDigit digit same
  · exact fun apart s offset => marked.renumber_append offset s apart

theorem MarkedBy.renumber_join (offset : Nat) {pieces : List String}
    (apart : ∀ t ∈ pieces.tail, startsWithDigit t.toList = false) :
    d.renumber offset (String.join pieces) = String.join (pieces.map (d.renumber offset)) := by
  induction pieces with
  | nil =>
    rw [marked.renumber_eq]
    exact congrArg String.ofList (shiftChars_of_not_holdsToken offset (holdsToken_nil [m]))
  | cons s pieces ih =>
    have behind : startsWithDigit (String.join pieces).toList = false := not_startsWithDigit_join apart
    have others : ∀ t ∈ pieces.tail, startsWithDigit t.toList = false := fun t inside =>
      apart t (List.mem_of_mem_tail inside)
    rw [String.join_cons, marked.renumber_append offset s behind, ih others, List.map_cons,
      String.join_cons]

end Marked

/-- What is put behind a text is renumbered on its own exactly when it does not start with a digit, so a text can
be renumbered piece by piece. The placeholder of a parameter comes to be that of the parameter which stands so
many places further. -/
theorem renumber_pieces {d : Dialect} {m : Char} (marked : d.MarkedBy m) :
    (∀ t, (∀ s offset, d.renumber offset (s ++ t) = d.renumber offset s ++ d.renumber offset t) ↔
        startsWithDigit t.toList = false) ∧
      (∀ pieces : List String, (∀ t ∈ pieces.tail, startsWithDigit t.toList = false) → ∀ offset,
        d.renumber offset (String.join pieces) = String.join (pieces.map (d.renumber offset))) ∧
      ∀ n offset, n + offset ≤ maxNumber →
        d.renumber offset (d.placeholder n) = d.placeholder (n + offset) := by
  refine ⟨marked.renumber_append_iff, fun pieces apart offset => marked.renumber_join offset apart, ?_⟩
  intro n offset fits
  have readable : d.Readable := Or.inr ⟨m, marked⟩
  exact readable.renumber_placeholder (Or.inr fits)

/-- A marker at the end of a piece, a number that ends one, and a digit of another script, which is no number but
cannot stand at a cut either. -/
theorem renumber_pieces_seams :
    postgres.renumber 5 (String.join ["12 = $", "$7", "", " OR $٣", "$"]) =
        String.join ["12 = $", "$12", "", " OR $٣", "$"] ∧
      sqlite.renumber 5 (String.join ["a = ?", " OR ?009", "?", "x?1"]) =
        String.join ["a = ?", " OR ?14", "?", "x?6"] ∧
      postgres.renumber 5 (postgres.placeholder 95) = postgres.placeholder 100 ∧
      sqlite.renumber 5 (sqlite.placeholder 95) = sqlite.placeholder 100 ∧
      ¬ ∀ s offset, sqlite.renumber offset (s ++ "٣") =
        sqlite.renumber offset s ++ sqlite.renumber offset "٣" := by
  obtain ⟨-, dollars, dollar⟩ := renumber_pieces postgres_markedBy
  obtain ⟨cut, questions, question⟩ := renumber_pieces sqlite_markedBy
  refine ⟨?_, ?_, dollar 95 5 (by decide), question 95 5 (by decide), ?_⟩
  · rw [dollars _ (by decide)]
    decide +kernel
  · rw [questions _ (by decide)]
    decide +kernel
  · rw [cut]
    decide

end Dialect

end SqlSelect
