import SqlSelect.Dialect.Basic
set_option autoImplicit false

/-! A quoted name can be read back: where two of them begin the same text, and neither runs on, they are the
same name, and what follows them is the same. -/
namespace SqlSelect

namespace Reference

variable {quote : Char}

/-- A quoted part or name has come to its end when neither a quote nor a dot follows. -/
def Ends (quote : Char) (rest : List Char) : Prop :=
  rest.head? ≠ some quote ∧ rest.head? ≠ some '.'

theorem doubled_cons (c : Char) (part : List Char) :
    doubled quote (c :: part) = (if c = quote then [quote, quote] else [c]) ++ doubled quote part :=
  List.flatMap_cons

theorem doubledChar_append_inj {c c' : Char} {rest rest' : List Char}
    (same : (if c = quote then [quote, quote] else [c]) ++ rest =
      (if c' = quote then [quote, quote] else [c']) ++ rest') : c = c' ∧ rest = rest' := by
  by_cases hit : c = quote <;> by_cases hit' : c' = quote
  · rw [if_pos hit, if_pos hit'] at same
    exact ⟨hit.trans hit'.symm, List.append_cancel_left same⟩
  · rw [if_pos hit, if_neg hit'] at same
    exact absurd (List.cons.inj same).1.symm hit'
  · rw [if_neg hit, if_pos hit'] at same
    exact absurd (List.cons.inj same).1 hit
  · rw [if_neg hit, if_neg hit'] at same
    exact List.cons.inj same

/-- A quote that stands alone closes a part. -/
theorem closing_ne_doubledChar {c : Char} {rest rest' : List Char} (ended : rest.head? ≠ some quote) :
    quote :: rest ≠ (if c = quote then [quote, quote] else [c]) ++ rest' := by
  intro same
  by_cases hit : c = quote
  · rw [if_pos hit] at same
    exact ended (congrArg List.head? (List.cons.inj same).2)
  · rw [if_neg hit] at same
    exact hit (List.cons.inj same).1.symm

theorem doubled_append_inj {part part' rest rest' : List Char} (ended : rest.head? ≠ some quote)
    (ended' : rest'.head? ≠ some quote)
    (same : doubled quote part ++ quote :: rest = doubled quote part' ++ quote :: rest') :
    part = part' ∧ rest = rest' := by
  induction part generalizing part' with
  | nil =>
    cases part' with
    | nil => exact ⟨rfl, (List.cons.inj same).2⟩
    | cons c part' =>
      rw [doubled_cons, List.append_assoc] at same
      exact absurd same (closing_ne_doubledChar ended)
  | cons c part ih =>
    cases part' with
    | nil =>
      rw [doubled_cons, List.append_assoc] at same
      exact absurd same.symm (closing_ne_doubledChar ended')
    | cons c' part' =>
      rw [doubled_cons, doubled_cons, List.append_assoc, List.append_assoc] at same
      obtain ⟨rfl, others⟩ := doubledChar_append_inj same
      obtain ⟨rfl, follow⟩ := ih others
      exact ⟨rfl, follow⟩

/-- A part of a name as it stands in a statement: the bare wildcard, or a text between quotes. -/
inductive Part where
  | wildcard
  | quoted (text : List Char)
  deriving DecidableEq

namespace Part

def written (quote : Char) : Part → List Char
  | wildcard => ['*']
  | quoted text => quote :: doubled quote text ++ [quote]

/-- The text that the part stands for. -/
def decoded : Part → List Char
  | wildcard => ['*']
  | quoted text => text

/-- The part that a text is written as. -/
def ofText (text : List Char) : Part :=
  if text = ['*'] then wildcard else quoted text

theorem written_ofText (text : List Char) : (ofText text).written quote = quotedPart quote text := by
  unfold ofText quotedPart
  split <;> rfl

theorem decoded_ofText (text : List Char) : (ofText text).decoded = text := by
  unfold ofText
  split
  · rename_i star
    exact star.symm
  · rfl

theorem written_append_inj (wild : quote ≠ '*') {part part' : Part} {rest rest' : List Char}
    (ended : rest.head? ≠ some quote) (ended' : rest'.head? ≠ some quote)
    (same : part.written quote ++ rest = part'.written quote ++ rest') : part = part' ∧ rest = rest' := by
  cases part with
  | wildcard =>
    cases part' with
    | wildcard => exact ⟨rfl, List.append_cancel_left same⟩
    | quoted text' => exact absurd (List.cons.inj same).1.symm wild
  | quoted text =>
    cases part' with
    | wildcard => exact absurd (List.cons.inj same).1 wild
    | quoted text' =>
      rw [written, written, List.cons_append, List.cons_append, List.append_assoc, List.append_assoc] at same
      obtain ⟨rfl, follow⟩ := doubled_append_inj ended ended' (List.cons.inj same).2
      exact ⟨rfl, follow⟩

end Part

/-- Parts as they are written one behind the other, with dots between them. -/
def dotted (quote : Char) (parts : List Part) : List Char :=
  ['.'].intercalate (parts.map (Part.written quote))

theorem dotted_cons (part : Part) {parts : List Part} (more : parts ≠ []) :
    dotted quote (part :: parts) = part.written quote ++ '.' :: dotted quote parts := by
  cases parts with
  | nil => exact absurd rfl more
  | cons next parts =>
    rw [dotted, List.map_cons, List.map_cons, List.intercalate_cons_cons, List.append_assoc]
    rfl

theorem dotted_singleton (part : Part) : dotted quote [part] = part.written quote :=
  List.intercalate_singleton

theorem dotted_append_inj (wild : quote ≠ '*') (dot : quote ≠ '.') {parts parts' : List Part}
    {rest rest' : List Char} (written : parts ≠ []) (written' : parts' ≠ []) (ended : Ends quote rest)
    (ended' : Ends quote rest') (same : dotted quote parts ++ rest = dotted quote parts' ++ rest') :
    parts = parts' ∧ rest = rest' := by
  have goesOn (more : List Char) : ('.' :: more).head? ≠ some quote := by simpa using dot.symm
  induction parts generalizing parts' with
  | nil => exact absurd rfl written
  | cons part parts ih =>
    cases parts' with
    | nil => exact absurd rfl written'
    | cons part' parts' =>
      -- Behind a part stands either the rest or a dot, and the rest begins with no dot.
      by_cases last : parts = []
      · by_cases last' : parts' = []
        · subst last last'
          rw [dotted_singleton, dotted_singleton] at same
          obtain ⟨rfl, follow⟩ := Part.written_append_inj wild ended.1 ended'.1 same
          exact ⟨rfl, follow⟩
        · subst last
          rw [dotted_singleton, dotted_cons _ last', List.append_assoc] at same
          obtain ⟨-, follow⟩ := Part.written_append_inj wild ended.1 (goesOn _) same
          exact absurd (congrArg List.head? follow) ended.2
      · by_cases last' : parts' = []
        · subst last'
          rw [dotted_cons _ last, dotted_singleton, List.append_assoc] at same
          obtain ⟨-, follow⟩ := Part.written_append_inj wild (goesOn _) ended'.1 same
          exact absurd (congrArg List.head? follow.symm) ended'.2
        · rw [dotted_cons _ last, dotted_cons _ last', List.append_assoc, List.append_assoc] at same
          obtain ⟨rfl, follow⟩ := Part.written_append_inj wild (goesOn _) (goesOn _) same
          obtain ⟨rfl, behind⟩ := ih last last' (List.cons.inj follow).2
          exact ⟨rfl, behind⟩

theorem quotedParts_eq_dotted (texts : List (List Char)) :
    quotedParts quote texts = dotted quote (texts.map Part.ofText) := by
  simp only [quotedParts, dotted, List.map_map, Function.comp_def, Part.written_ofText]

theorem map_decoded_ofText (texts : List (List Char)) :
    (texts.map Part.ofText).map Part.decoded = texts := by
  rw [List.map_map]
  exact List.map_id'' Part.decoded_ofText texts

theorem quotedParts_cons (part : List Char) {parts : List (List Char)} (more : parts ≠ []) :
    quotedParts quote (part :: parts) = quotedPart quote part ++ '.' :: quotedParts quote parts := by
  rw [quotedParts_eq_dotted, List.map_cons, dotted_cons _ (by simpa using more), Part.written_ofText,
    quotedParts_eq_dotted]

theorem quotedParts_singleton (part : List Char) : quotedParts quote [part] = quotedPart quote part :=
  List.intercalate_singleton

theorem splitDots_ne_nil (name : List Char) : splitDots name ≠ [] :=
  List.splitOn_ne_nil _ _

/-- Names are read back from between their quotes. -/
theorem quoted_ofName_append_inj (wild : quote ≠ '*') (dot : quote ≠ '.')
    {name name' rest rest' : List Char} (ended : Ends quote rest) (ended' : Ends quote rest')
    (same : (ofName name).quoted quote ++ rest = (ofName name').quoted quote ++ rest') :
    name = name' ∧ rest = rest' := by
  simp only [quoted, ofName, List.append_nil, quotedParts_eq_dotted] at same
  obtain ⟨parts, follow⟩ := dotted_append_inj wild dot (by simpa using splitDots_ne_nil name)
    (by simpa using splitDots_ne_nil name') ended ended' same
  refine ⟨?_, follow⟩
  rw [← intercalate_splitDots name, ← map_decoded_ofText (splitDots name), parts, map_decoded_ofText,
    intercalate_splitDots]

/-- A name between quotes begins with a quote, or it is a wildcard. -/
theorem head?_quoted_ofName (name : List Char) :
    ((ofName name).quoted quote).head? = some quote ∨
      ((ofName name).quoted quote).head? = some '*' := by
  simp only [quoted, ofName, List.append_nil]
  have part : ∀ part rest : List Char, (quotedPart quote part ++ rest).head? = some quote ∨
      (quotedPart quote part ++ rest).head? = some '*' := by
    intro part rest
    unfold quotedPart
    split
    · exact Or.inr rfl
    · exact Or.inl rfl
  cases parts : splitDots name with
  | nil => exact absurd parts (splitDots_ne_nil name)
  | cons first others =>
    by_cases last : others = []
    · subst last
      rw [quotedParts_singleton, ← List.append_nil (quotedPart quote first)]
      exact part first []
    · rw [quotedParts_cons _ last]
      exact part first _

end Reference

end SqlSelect
