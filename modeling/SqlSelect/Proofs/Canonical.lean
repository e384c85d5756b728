import SqlSelect.Proofs.Cutting
import SqlSelect.Query.Operator
set_option autoImplicit false

/-! Operators up to their words. The canonical form of an operator reads as the same words, so it tells the
forms with a meaning of their own apart from all other operators. -/
namespace SqlSelect

namespace Text

theorem letter_or_toUpper_eq (c : Char) : 97 ≤ c.toNat ∧ c.toNat < 123 ∨ c.toUpper = c := by
  by_cases lower : 'a'.val ≤ c.val ∧ c.val ≤ 'z'.val
  · exact Or.inl ⟨lower.1, Nat.lt_succ_of_le lower.2⟩
  · exact Or.inr (dif_neg lower)

theorem isBlank_toUpper (c : Char) : isBlank c.toUpper = isBlank c := by
  rcases letter_or_toUpper_eq c with letter | same
  · have range : ∀ n < 123, 97 ≤ n → isBlank (Char.ofNat n).toUpper = isBlank (Char.ofNat n) := by
      decide
    have found := range c.toNat letter.2 letter.1
    rwa [Char.ofNat_toNat] at found
  · rw [same]

theorem toUpper_toUpper (s : String) : s.toUpper.toUpper = s.toUpper := by
  have each (c : Char) : c.toUpper.toUpper = c.toUpper := by
    rcases letter_or_toUpper_eq c with letter | same
    · have range : ∀ n < 123, 97 ≤ n →
          (Char.ofNat n).toUpper.toUpper = (Char.ofNat n).toUpper := by decide
      have found := range c.toNat letter.2 letter.1
      rwa [Char.ofNat_toNat] at found
    · rw [same, same]
  rw [← String.toList_inj, String.toUpper, String.toUpper, String.toList_map, String.toList_map,
    List.map_map]
  exact List.map_congr_left fun c _ => each c

/-- Equal but for the case of the ASCII letters. -/
def SameLetters (word word' : List Char) : Prop :=
  word.map Char.toUpper = word'.map Char.toUpper

instance (word word' : List Char) : Decidable (SameLetters word word') :=
  inferInstanceAs (Decidable (word.map Char.toUpper = word'.map Char.toUpper))

theorem words_trim (s : String) : words (trim s) = words s := by
  rw [words, words, trim, String.toList_ofList, wordChars_trimChars]

end Text

namespace Operator

open Text

/-- The operators that are not comparisons, as they are written in canonical form. -/
def reserved : List String :=
  ["BETWEEN", "NOT BETWEEN", "IN", "NOT IN", "IS NULL", "IS NOT NULL", "EXISTS", "NOT EXISTS"]

theorem canonicalWords_trim (op : String) : canonicalWords (trim op) = canonicalWords op := by
  rw [canonicalWords, canonicalWords, words_trim]

theorem canonical_trim (op : String) : canonical (trim op) = canonical op := by
  rw [canonical, canonical, canonicalWords_trim]

theorem toList_canonicalWords (op : String) :
    (canonicalWords op).map String.toList = (wordChars op.toList).map (List.map Char.toUpper) := by
  rw [canonicalWords, words, List.map_map, List.map_map]
  refine List.map_congr_left fun word _ => ?_
  simp only [Function.comp, String.toUpper, String.toList_map, String.toList_ofList]

/-- The words of the canonical form are the canonical words. -/
theorem words_canonical (op : String) : words (canonical op) = canonicalWords op := by
  have each : ∀ word ∈ (canonicalWords op).map String.toList, IsWord word := by
    rw [toList_canonicalWords]
    intro word inside
    obtain ⟨plain, found, rfl⟩ := List.mem_map.1 inside
    obtain ⟨written, solid⟩ := isWord_of_mem_wordChars plain found
    refine ⟨by simpa using written, fun c capital => ?_⟩
    obtain ⟨k, inWord, rfl⟩ := List.mem_map.1 capital
    rw [isBlank_toUpper, solid k inWord]
  have joined : (canonical op).toList = [' '].intercalate ((canonicalWords op).map String.toList) :=
    String.toList_intercalate
  rw [words, joined, wordChars_intercalate each, List.map_map]
  exact List.map_id'' (fun word => String.ofList_toList) _

theorem canonicalWords_canonical (op : String) :
    canonicalWords (canonical op) = canonicalWords op := by
  rw [canonicalWords, words_canonical, canonicalWords, List.map_map]
  exact List.map_congr_left fun word _ => toUpper_toUpper word

theorem canonical_canonical (op : String) : canonical (canonical op) = canonical op := by
  rw [canonical, canonicalWords_canonical, canonical]

/-- How an operator is written in canonical form. -/
def form : Operator → String
  | between negated => if negated then "NOT BETWEEN" else "BETWEEN"
  | membership negated => if negated then "NOT IN" else "IN"
  | nullTest negated => if negated then "IS NOT NULL" else "IS NULL"
  | existence negated => if negated then "NOT EXISTS" else "EXISTS"
  | comparison text => text

/-- What an operator is read as has its words. -/
theorem canonicalWords_form_ofText (op : String) :
    canonicalWords (ofText op).form = canonicalWords op := by
  unfold ofText
  split
  -- The last case is the comparison, the only one that keeps the text itself.
  case h_9 => exact canonicalWords_trim op
  all_goals
    rename_i same
    rw [same]
    decide +kernel

/-- Operators of the same words are read alike, unless they are comparisons, which are kept as they were
written. -/
theorem ofText_congr {op op' : String} (same : canonicalWords op = canonicalWords op')
    (named : ∀ text, ofText op' ≠ comparison text) : ofText op = ofText op' := by
  revert named
  unfold ofText
  rw [same]
  split
  case h_9 => exact fun named => absurd rfl (named _)
  all_goals exact fun _ => rfl

section Named

variable {o : Operator}

theorem form_mem_reserved (named : ∀ text, o ≠ comparison text) : o.form ∈ reserved := by
  cases o with
  | between negated => cases negated <;> decide
  | membership negated => cases negated <;> decide
  | nullTest negated => cases negated <;> decide
  | existence negated => cases negated <;> decide
  | comparison text => exact absurd rfl (named text)

theorem canonical_form (named : ∀ text, o ≠ comparison text) : canonical o.form = o.form := by
  have each : ∀ form ∈ reserved, canonical form = form := by decide +kernel
  exact each _ (form_mem_reserved named)

theorem ofText_form (named : ∀ text, o ≠ comparison text) : ofText o.form = o := by
  cases o with
  | between negated => cases negated <;> decide +kernel
  | membership negated => cases negated <;> decide +kernel
  | nullTest negated => cases negated <;> decide +kernel
  | existence negated => cases negated <;> decide +kernel
  | comparison text => exact absurd rfl (named text)

/-- The words of an operator other than a comparison decide what is read. -/
theorem ofText_eq_iff {op : String} (named : ∀ text, o ≠ comparison text) :
    ofText op = o ↔ canonicalWords op = canonicalWords o.form := by
  constructor
  · rintro rfl
    exact (canonicalWords_form_ofText op).symm
  · intro same
    have read : ofText o.form = o := ofText_form named
    rw [ofText_congr same (by rwa [read]), read]

theorem ofText_eq_iff_canonical {op : String} (named : ∀ text, o ≠ comparison text) :
    ofText op = o ↔ canonical op = o.form := by
  rw [ofText_eq_iff named]
  constructor
  · intro same
    rw [canonical, same, ← canonical, canonical_form named]
  · intro same
    rw [← same, canonicalWords_canonical]

end Named

theorem exists_form_of_mem_reserved {text : String} (inside : text ∈ reserved) :
    ∃ o : Operator, o.form = text ∧ ∀ text, o ≠ comparison text := by
  simp only [reserved, List.mem_cons, List.not_mem_nil, or_false] at inside
  rcases inside with rfl | rfl | rfl | rfl | rfl | rfl | rfl | rfl
  · exact ⟨between false, rfl, nofun⟩
  · exact ⟨between true, rfl, nofun⟩
  · exact ⟨membership false, rfl, nofun⟩
  · exact ⟨membership true, rfl, nofun⟩
  · exact ⟨nullTest false, rfl, nofun⟩
  · exact ⟨nullTest true, rfl, nofun⟩
  · exact ⟨existence false, rfl, nofun⟩
  · exact ⟨existence true, rfl, nofun⟩

/-- What is read as a comparison is kept as it was written, and is none of the reserved operators. -/
theorem ofText_eq_comparison {op text : String} (read : ofText op = .comparison text) :
    text = trim op ∧ canonical text ∉ reserved := by
  have kept : text = trim op := by
    unfold ofText at read
    split at read <;> cases read
    rfl
  refine ⟨kept, fun inside => ?_⟩
  rw [kept, canonical_trim] at inside
  obtain ⟨o, form, named⟩ := exists_form_of_mem_reserved inside
  have found : ofText op = o := (ofText_eq_iff_canonical named).2 form.symm
  exact named text (found.symm.trans read)

theorem takesNoColumn_iff (op : String) :
    takesNoColumn op ↔ canonical op = "EXISTS" ∨ canonical op = "NOT EXISTS" := by
  have reads (negated : Bool) :
      ofText op = existence negated ↔ canonical op = (existence negated).form :=
    ofText_eq_iff_canonical nofun
  have takes : takesNoColumn op ↔ ∃ negated, ofText op = existence negated := by
    unfold takesNoColumn
    cases ofText op <;> simp
  rw [takes, Bool.exists_bool, reads, reads]
  rfl

end Operator

end SqlSelect
