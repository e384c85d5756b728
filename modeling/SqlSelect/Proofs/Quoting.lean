import SqlSelect.Proofs.Cutting
import SqlSelect.Proofs.Token
import SqlSelect.Reference
set_option autoImplicit false

/-! The parts of a reference are pieces of the text that it was read from, and quoting them makes no
placeholder that was not in the text. -/
namespace SqlSelect

namespace Text

theorem trimChars_infix (cs : List Char) : trimChars cs <:+: cs :=
  (trimEnd_isPrefix _).isInfix.trans (List.dropWhile_suffix _).isInfix

theorem infix_of_mem_wordChars {text word : List Char} (inside : word ∈ wordChars text) :
    word <:+: text := by
  induction text using words_induction with
  | nil => cases inside
  | blank blank ih =>
    rw [wordChars_blank blank] at inside
    exact List.infix_cons (ih inside)
  | word isWord ended ih =>
    rw [wordChars_word isWord ended, List.mem_cons] at inside
    rcases inside with rfl | later
    · exact (List.prefix_append _ _).isInfix
    · exact (ih later).trans (List.suffix_append _ _).isInfix

end Text

theorem infix_intercalate_of_mem {α : Type} {separator : List α} {parts : List (List α)}
    {part : List α} (inside : part ∈ parts) : part <:+: separator.intercalate parts := by
  induction parts with
  | nil => cases inside
  | cons first rest ih =>
    cases rest with
    | nil =>
      rw [List.mem_singleton] at inside
      simp only [List.intercalate_singleton, inside, List.infix_rfl]
    | cons second rest =>
      rw [List.intercalate_cons_cons]
      rcases List.mem_cons.1 inside with rfl | later
      · exact ((List.prefix_append _ _).trans (List.prefix_append _ _)).isInfix
      · exact (ih later).trans (List.suffix_append _ _).isInfix

namespace Reference

open Placeholder

/-- Everything that is quoted one by one: the parts of the name, then the alias. -/
def names (r : Reference) : List (List Char) :=
  r.parts ++ r.aliasName.toList

theorem infix_of_mem_splitDots {name part : List Char} (inside : part ∈ splitDots name) :
    part <:+: name := by
  have whole : part <:+: ['.'].intercalate (splitDots name) := infix_intercalate_of_mem inside
  rwa [intercalate_splitDots] at whole

theorem infix_of_mem_columnParts {name part : List Char} (inside : part ∈ columnParts name) :
    part <:+: name := by
  unfold columnParts at inside
  split at inside
  · rw [List.mem_singleton] at inside
    exact inside ▸ List.infix_rfl
  · exact infix_of_mem_splitDots inside

theorem infix_of_mem_ofName {name part : List Char} (inside : part ∈ (ofName name).names) :
    part <:+: name := by
  simp only [ofName, names, Option.toList_none, List.append_nil] at inside
  exact infix_of_mem_splitDots inside

theorem infix_of_mem_ofColumn {text part : List Char} (inside : part ∈ (ofColumn text).names) :
    part <:+: text := by
  have plain : ∀ p ∈ columnParts (Text.trimChars text), p <:+: text := fun p h =>
    (infix_of_mem_columnParts h).trans (Text.trimChars_infix text)
  unfold ofColumn at inside
  split at inside
  · rename_i name middle aliasName words
    have word : ∀ w ∈ [name, middle, aliasName], w <:+: text := fun w h =>
      Text.infix_of_mem_wordChars (words ▸ h)
    split at inside
    · simp only [names, Option.toList_some, List.mem_append, List.mem_singleton] at inside
      rcases inside with inName | rfl
      · exact (infix_of_mem_columnParts inName).trans (word name (by simp))
      · exact word part (by simp)
    · exact plain part (by simpa [names] using inside)
  · exact plain part (by simpa [names] using inside)

theorem infix_of_mem_ofTable {text part : List Char} (inside : part ∈ (ofTable text).names) :
    part <:+: text := by
  have plain : ∀ p ∈ (ofName (Text.trimChars text)).names, p <:+: text := fun p h =>
    (infix_of_mem_ofName h).trans (Text.trimChars_infix text)
  unfold ofTable at inside
  split at inside
  · rename_i name aliasName words
    have word : ∀ w ∈ [name, aliasName], w <:+: text := fun w h =>
      Text.infix_of_mem_wordChars (words ▸ h)
    simp only [names, Option.toList_some, List.mem_append, List.mem_singleton] at inside
    rcases inside with inName | rfl
    · exact (infix_of_mem_splitDots inName).trans (word name (by simp))
    · exact word part (by simp)
  · rename_i name middle aliasName words
    have word : ∀ w ∈ [name, middle, aliasName], w <:+: text := fun w h =>
      Text.infix_of_mem_wordChars (words ▸ h)
    split at inside
    · simp only [names, Option.toList_some, List.mem_append, List.mem_singleton] at inside
      rcases inside with inName | rfl
      · exact (infix_of_mem_splitDots inName).trans (word name (by simp))
      · exact word part (by simp)
    · exact plain part inside
  · exact plain part inside

section Tokens

variable {m quote : Char} (other : quote ≠ m) (plain : Text.isDecimalDigit quote = false)

include plain in
theorem startsWithDigit_doubled (part : List Char) :
    startsWithDigit (doubled quote part) = startsWithDigit part := by
  cases part with
  | nil => rfl
  | cons c part =>
    by_cases h : c = quote
    · simp [doubled, h, plain]
    · simp [doubled, h]

include other plain in
theorem holdsToken_doubled (part : List Char) :
    holdsToken [m] (doubled quote part) = holdsToken [m] part := by
  induction part with
  | nil => rfl
  | cons c part ih =>
    have step : doubled quote (c :: part) =
        (if c = quote then [quote, quote] else [c]) ++ doubled quote part := List.flatMap_cons
    rw [step, holdsToken_cons, ← ih, ← startsWithDigit_doubled plain]
    by_cases h : c = quote
    · simp [h, holdsToken_cons, other]
    · simp [h, holdsToken_cons]

include other plain in
theorem not_holdsToken_quotedPart {part : List Char} (free : holdsToken [m] part = false) :
    holdsToken [m] (quotedPart quote part) = false := by
  unfold quotedPart
  split
  · exact not_holdsToken_of_no_digit (by decide)
  · have close : startsWithDigit [quote] = false := plain
    rw [List.cons_append, holdsToken_cons, holdsToken_append (Or.inl close),
      holdsToken_doubled other plain, free, not_holdsToken_of_no_digit (by simp [plain])]
    simp [other]

include plain in
theorem not_startsWithDigit_quotedPart (part : List Char) :
    startsWithDigit (quotedPart quote part) = false := by
  unfold quotedPart
  split
  · decide
  · exact plain

include other plain in
theorem not_holdsToken_quotedParts {parts : List (List Char)}
    (free : ∀ p ∈ parts, holdsToken [m] p = false) :
    holdsToken [m] (quotedParts quote parts) = false ∧
      startsWithDigit (quotedParts quote parts) = false := by
  unfold quotedParts
  induction parts with
  | nil => exact ⟨rfl, rfl⟩
  | cons part rest ih =>
    have first := not_holdsToken_quotedPart other plain (free part List.mem_cons_self)
    have start := not_startsWithDigit_quotedPart plain part
    have tail := ih fun p inside => free p (List.mem_cons_of_mem part inside)
    cases rest with
    | nil =>
      rw [List.map_singleton, List.intercalate_singleton]
      exact ⟨first, start⟩
    | cons next rest =>
      rw [List.map_cons] at tail
      rw [List.map_cons, List.map_cons, List.intercalate_cons_cons, List.append_assoc,
        List.singleton_append]
      constructor
      · rw [holdsToken_append (Or.inl (by rw [startsWithDigit_cons]; decide)), first,
          holdsToken_cons, tail.1, tail.2]
        simp
      · rw [startsWithDigit_append]
        split
        · rw [startsWithDigit_cons]
          decide
        · exact start

include other plain in
/-- A reference in quotes holds a placeholder only if one of its names does. -/
theorem not_holdsToken_quoted {r : Reference} (free : ∀ p ∈ r.names, holdsToken [m] p = false) :
    holdsToken [m] (r.quoted quote) = false := by
  have parts : holdsToken [m] (quotedParts quote r.parts) = false :=
    (not_holdsToken_quotedParts other plain fun p inside => free p (List.mem_append_left _ inside)).1
  unfold quoted
  cases label : r.aliasName with
  | none => simpa using parts
  | some aliasName =>
    have inside : aliasName ∈ r.names := List.mem_append_right _ (by simp [label])
    have last := not_holdsToken_quotedPart other plain (free aliasName inside)
    have start := not_startsWithDigit_quotedPart plain aliasName
    have spaced : startsWithDigit ([' ', 'A', 'S', ' '] ++ quotedPart quote aliasName) = false := by
      rw [startsWithDigit_append, if_neg (by simp)]
      decide
    rw [holdsToken_append (Or.inl spaced), parts, holdsToken_append (Or.inl start), last,
      not_holdsToken_of_no_digit (by decide)]
    rfl

end Tokens

end Reference

end SqlSelect
