set_option autoImplicit false

/-! White space in the sense of Unicode, and the two ways a text is cut along it: trimmed at both
ends, and split into words. -/
namespace SqlSelect.Text

/-- The characters with the property White_Space. -/
def isBlank (c : Char) : Bool :=
  [(0x09, 0x0D), (0x20, 0x20), (0x85, 0x85), (0xA0, 0xA0), (0x1680, 0x1680), (0x2000, 0x200A),
    (0x2028, 0x2029), (0x202F, 0x202F), (0x205F, 0x205F), (0x3000, 0x3000)].any
    fun range => range.1 ≤ c.toNat && c.toNat ≤ range.2

/-- Drops the blanks at the end. -/
def trimEnd : List Char → List Char
  | [] => []
  | c :: rest =>
    match trimEnd rest with
    | [] => if isBlank c then [] else [c]
    | kept => c :: kept

/-- Drops the blanks at both ends. -/
def trimChars (cs : List Char) : List Char :=
  trimEnd (cs.dropWhile isBlank)

/-- The text without the white space at its two ends. -/
def trim (s : String) : String :=
  String.ofList (trimChars s.toList)

/-- The maximal runs of characters that are not blank, in order. -/
def wordChars : List Char → List (List Char)
  | [] => []
  | c :: rest =>
    if isBlank c then wordChars rest
    else
      match rest with
      | [] => [[c]]
      | next :: _ =>
        if isBlank next then [c] :: wordChars rest
        else
          match wordChars rest with
          | word :: words => (c :: word) :: words
          | [] => [[c]]

/-- The words of a text, cut at any white space. -/
def words (s : String) : List String :=
  (wordChars s.toList).map String.ofList

theorem trimEnd_idem (cs : List Char) : trimEnd (trimEnd cs) = trimEnd cs := by
  induction cs with
  | nil => rfl
  | cons c rest ih =>
    cases hkept : trimEnd rest with
    | nil =>
      by_cases hc : isBlank c <;> simp [trimEnd, hkept, hc]
    | cons k kept =>
      have hstep : trimEnd (c :: rest) = c :: k :: kept := by simp [trimEnd, hkept]
      rw [hkept] at ih
      rw [hstep, trimEnd, ih]

theorem trimEnd_cons_of_not_blank {c : Char} (h : isBlank c = false) (rest : List Char) :
    trimEnd (c :: rest) = c :: trimEnd rest := by
  cases hkept : trimEnd rest <;> simp [trimEnd, hkept, h]

theorem trimChars_idem (cs : List Char) : trimChars (trimChars cs) = trimChars cs := by
  unfold trimChars
  cases hcs : cs.dropWhile isBlank with
  | nil => rfl
  | cons c rest =>
    have hc : isBlank c = false := by
      have h := List.head?_dropWhile_not isBlank cs
      rw [hcs] at h
      simpa using h
    rw [trimEnd_cons_of_not_blank hc, List.dropWhile_cons_of_neg (by simp [hc]),
      trimEnd_cons_of_not_blank hc, trimEnd_idem]

/-- Trimming twice is trimming once. -/
theorem trim_trim (s : String) : trim (trim s) = trim s := by
  simp [trim, trimChars_idem]

end SqlSelect.Text
