import SqlSelect.Text.DecimalDigit
set_option autoImplicit false

/-! Numbered placeholders in a text: a marker followed by a number. Reading goes from left to right
without overlap, and a number extends as far as there are digits. -/
namespace SqlSelect.Placeholder

/-- A stretch of text as the reader sees it. -/
inductive Piece where
  /-- A character outside of every token. -/
  | plain (c : Char)
  /-- The digits after a marker. -/
  | numbered (digits : List Char)
  deriving DecidableEq

/-- What follows the marker, if the text starts with it. -/
def afterMarker? : List Char → List Char → Option (List Char)
  | [], text => some text
  | _ :: _, [] => none
  | m :: marker, c :: text => if m = c then afterMarker? marker text else none

/-- The digits of the token at the start of the text, and the text after it. -/
def token? (marker text : List Char) : Option (List Char × List Char) :=
  (afterMarker? marker text).bind fun rest =>
    if (rest.takeWhile Text.isDecimalDigit).isEmpty then none
    else some (rest.takeWhile Text.isDecimalDigit, rest.dropWhile Text.isDecimalDigit)

theorem afterMarker?_eq_some_iff {marker text rest : List Char} :
    afterMarker? marker text = some rest ↔ text = marker ++ rest := by
  induction marker generalizing text with
  | nil => simp [afterMarker?, eq_comm]
  | cons m marker ih =>
    cases text with
    | nil => simp [afterMarker?]
    | cons c text =>
      by_cases h : m = c
      · simp [afterMarker?, h, ih]
      · simp [afterMarker?, h, Ne.symm h]

theorem token?_eq_some {marker text digits rest : List Char}
    (h : token? marker text = some (digits, rest)) :
    text = marker ++ digits ++ rest ∧ digits ≠ [] := by
  simp only [token?, Option.bind_eq_some_iff, Option.ite_none_left_eq_some, Option.some.injEq,
    Prod.mk.injEq] at h
  obtain ⟨tail, htail, hne, rfl, rfl⟩ := h
  rw [afterMarker?_eq_some_iff] at htail
  exact ⟨by rw [htail, List.append_assoc, List.takeWhile_append_dropWhile],
    by simpa using hne⟩

theorem length_lt_of_token? {marker text digits rest : List Char}
    (h : token? marker text = some (digits, rest)) : rest.length < text.length := by
  obtain ⟨htext, hne⟩ := token?_eq_some h
  have hpos := List.length_pos_iff.2 hne
  simp only [htext, List.length_append]
  omega

/-- The pieces of a text, from left to right. -/
def scan (marker : List Char) (text : List Char) : List Piece :=
  match _ : token? marker text with
  | some (digits, rest) => .numbered digits :: scan marker rest
  | none =>
    match text with
    | [] => []
    | c :: rest => .plain c :: scan marker rest
termination_by text.length
decreasing_by
  · exact length_lt_of_token? (by assumption)
  · simp

/-- The text that the pieces were read from. -/
def unscan (marker : List Char) (pieces : List Piece) : List Char :=
  pieces.flatMap fun
    | .plain c => [c]
    | .numbered digits => marker ++ digits

/-- Reading loses nothing. -/
theorem unscan_scan (marker text : List Char) : unscan marker (scan marker text) = text := by
  fun_induction scan marker text with
  | case1 text digits rest htoken ih =>
    simp only [unscan, List.flatMap_cons] at ih ⊢
    rw [ih, (token?_eq_some htoken).1]
  | case2 => rfl
  | case3 c rest htoken ih =>
    simp only [unscan, List.flatMap_cons] at ih ⊢
    rw [ih]
    rfl

end SqlSelect.Placeholder
