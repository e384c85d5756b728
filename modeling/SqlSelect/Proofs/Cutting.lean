import Mathlib.Data.List.TakeWhile
import SqlSelect.Text.Blank
set_option autoImplicit false

/-! How a text is cut along white space: characters may be replaced as long as blanks stay blanks, the white
space at the ends does not count, and words are found again once they are joined by single spaces. -/
namespace SqlSelect.Text

section Mapping

variable {f : Char → Char} (blank : ∀ c, isBlank (f c) = isBlank c)

include blank

theorem trimEnd_map (cs : List Char) : trimEnd (cs.map f) = (trimEnd cs).map f := by
  induction cs with
  | nil => rfl
  | cons c cs ih =>
    rw [List.map_cons, trimEnd, trimEnd, ih, blank]
    cases trimEnd cs with
    | nil => cases isBlank c <;> rfl
    | cons k kept => rfl

theorem trimChars_map (cs : List Char) : trimChars (cs.map f) = (trimChars cs).map f := by
  have same : isBlank ∘ f = isBlank := funext blank
  rw [trimChars, trimChars, List.dropWhile_map, same, trimEnd_map blank]

theorem wordChars_map (cs : List Char) : wordChars (cs.map f) = (wordChars cs).map (List.map f) := by
  induction cs with
  | nil => rfl
  | cons c cs ih =>
    cases cs with
    | nil =>
      simp only [List.map_cons, List.map_nil, wordChars, blank]
      cases isBlank c <;> rfl
    | cons next cs =>
      rw [List.map_cons, List.map_cons, wordChars, wordChars, ← List.map_cons, ih, blank, blank]
      cases isBlank c with
      | true => rfl
      | false =>
        cases isBlank next with
        | true => rfl
        | false => cases wordChars (next :: cs) <;> rfl

end Mapping

/-- What can be a word of a text. -/
def IsWord (word : List Char) : Prop :=
  word ≠ [] ∧ ∀ c ∈ word, isBlank c = false

theorem wordChars_blank {c : Char} (blank : isBlank c) (rest : List Char) :
    wordChars (c :: rest) = wordChars rest := by
  rw [wordChars.eq_def]
  simp only [blank, ↓reduceIte]

/-- A word ends where a blank or the end of the text comes. -/
theorem wordChars_word {word rest : List Char} (isWord : IsWord word)
    (ended : rest.head?.all isBlank) : wordChars (word ++ rest) = word :: wordChars rest := by
  obtain ⟨written, solid⟩ := isWord
  induction word with
  | nil => exact absurd rfl written
  | cons c word ih =>
    obtain ⟨first, others⟩ := List.forall_mem_cons.1 solid
    cases word with
    | nil =>
      cases rest with
      | nil => simp [wordChars, first]
      | cons b rest =>
        have blank : isBlank b := by simpa using ended
        rw [List.singleton_append, wordChars.eq_def]
        simp only [first, blank, Bool.false_eq_true, ↓reduceIte]
    | cons next word =>
      have split := ih (List.cons_ne_nil _ _) others
      have second : isBlank next = false := others next List.mem_cons_self
      rw [List.cons_append] at split
      rw [List.cons_append, List.cons_append, wordChars.eq_def]
      simp only [first, second, split, Bool.false_eq_true, ↓reduceIte]

/-- By induction along a text, a blank or a whole word at a time. -/
theorem words_induction {P : List Char → Prop} (nil : P [])
    (blank : ∀ {c rest}, isBlank c → P rest → P (c :: rest))
    (word : ∀ {word rest}, IsWord word → rest.head?.all isBlank → P rest → P (word ++ rest)) :
    ∀ text, P text := by
  intro text
  -- On the length: a word is not empty, so what is left behind it is shorter.
  induction size : text.length using Nat.strongRecOn generalizing text with
  | ind n ih =>
    cases text with
    | nil => exact nil
    | cons c rest =>
      by_cases first : isBlank c
      · exact blank first (ih rest.length (by simp [← size]) rest rfl)
      · let front := (c :: rest).takeWhile fun c => !isBlank c
        let back := (c :: rest).dropWhile fun c => !isBlank c
        have split : front ++ back = c :: rest := List.takeWhile_append_dropWhile
        have isWord : IsWord front := by
          refine ⟨by simp [front, first], fun k inside => ?_⟩
          simpa using List.mem_takeWhile_imp inside
        have ended : back.head?.all isBlank := by
          have stop := List.head?_dropWhile_not (fun c => !isBlank c) (c :: rest)
          cases head : back.head? with
          | none => rfl
          | some k =>
            rw [head] at stop
            simpa using stop
        have shorter : back.length < n := by
          rw [← size, ← split, List.length_append]
          have written := List.length_pos_iff.2 isWord.1
          omega
        rw [← split]
        exact word isWord ended (ih back.length shorter back rfl)

theorem isWord_of_mem_wordChars {text : List Char} : ∀ word ∈ wordChars text, IsWord word := by
  induction text using words_induction with
  | nil => exact fun _ absent => nomatch absent
  | blank blank ih => rwa [wordChars_blank blank]
  | word isWord ended ih =>
    rw [wordChars_word isWord ended]
    exact List.forall_mem_cons.2 ⟨isWord, ih⟩

theorem wordChars_dropWhile (text : List Char) :
    wordChars (text.dropWhile isBlank) = wordChars text := by
  induction text with
  | nil => rfl
  | cons c text ih =>
    by_cases blank : isBlank c
    · rw [List.dropWhile_cons_of_pos blank, ih, wordChars_blank blank]
    · rw [List.dropWhile_cons_of_neg blank]

theorem trimEnd_isPrefix (cs : List Char) : trimEnd cs <+: cs := by
  induction cs with
  | nil => exact List.prefix_rfl
  | cons c rest ih =>
    cases kept : trimEnd rest with
    | nil =>
      by_cases blank : isBlank c
      · simp [trimEnd, kept, blank]
      · simp [trimEnd, kept, blank]
    | cons k more =>
      rw [kept] at ih
      simpa [trimEnd, kept] using ih

theorem trimEnd_word {word : List Char} (isWord : IsWord word) (rest : List Char) :
    trimEnd (word ++ rest) = word ++ trimEnd rest := by
  obtain ⟨-, solid⟩ := isWord
  induction word with
  | nil => rfl
  | cons c word ih =>
    obtain ⟨first, others⟩ := List.forall_mem_cons.1 solid
    rw [List.cons_append, trimEnd_cons_of_not_blank first, ih others, List.cons_append]

theorem wordChars_trimEnd (text : List Char) : wordChars (trimEnd text) = wordChars text := by
  induction text using words_induction with
  | nil => rfl
  | blank blank ih =>
    rename_i c rest
    rw [wordChars_blank blank, ← ih, trimEnd]
    cases kept : trimEnd rest with
    | nil => rw [if_pos blank]
    | cons k more => exact wordChars_blank blank _
  | word isWord ended ih =>
    rename_i word rest
    have ended' : (trimEnd rest).head?.all isBlank := by
      obtain ⟨dropped, split⟩ := trimEnd_isPrefix rest
      cases kept : trimEnd rest with
      | nil => rfl
      | cons k more =>
        rw [kept] at split
        rwa [← split] at ended
    rw [trimEnd_word isWord, wordChars_word isWord ended, wordChars_word isWord ended', ih]

theorem wordChars_trimChars (text : List Char) : wordChars (trimChars text) = wordChars text := by
  rw [trimChars, wordChars_trimEnd, wordChars_dropWhile]

theorem wordChars_intercalate {words : List (List Char)} (each : ∀ word ∈ words, IsWord word) :
    wordChars ([' '].intercalate words) = words := by
  induction words with
  | nil => rfl
  | cons word words ih =>
    obtain ⟨first, others⟩ := List.forall_mem_cons.1 each
    cases words with
    | nil =>
      have alone : wordChars (word ++ []) = word :: wordChars [] := wordChars_word first rfl
      rw [List.append_nil] at alone
      rw [List.intercalate_singleton, alone]
      rfl
    | cons next words =>
      rw [List.intercalate_cons_cons, List.append_assoc, List.singleton_append,
        wordChars_word first rfl, wordChars_blank rfl, ih others]

end SqlSelect.Text
