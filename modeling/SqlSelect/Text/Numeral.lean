set_option autoImplicit false

/-! Numerals in ASCII digits: a run of decimal digits, the number that it writes, and single hexadecimal
digits. What follows a run matters only through its first character. -/
namespace SqlSelect.Text

/-- The digits at the start of a text, at least one, and the text after them. -/
def digits? (cs : List Char) : Option (List Char × List Char) :=
  if (cs.takeWhile Char.isDigit).isEmpty then none
  else some (cs.takeWhile Char.isDigit, cs.dropWhile Char.isDigit)

def natural (digits : List Char) : Nat :=
  Nat.ofDigitChars 10 digits 0

def hexValue? (c : Char) : Option Nat :=
  if c.isDigit then some (c.toNat - '0'.toNat)
  else if 'a' ≤ c && c ≤ 'f' then some (c.toNat - 'a'.toNat + 10)
  else if 'A' ≤ c && c ≤ 'F' then some (c.toNat - 'A'.toNat + 10)
  else none

theorem length_lt_of_digits? {text digits rest : List Char} (read : digits? text = some (digits, rest)) :
    rest.length < text.length := by
  rw [digits?, Option.ite_none_left_eq_some] at read
  obtain ⟨some', same⟩ := read
  cases same
  have split := congrArg List.length (List.takeWhile_append_dropWhile (p := Char.isDigit) (l := text))
  rw [List.length_append] at split
  have : (text.takeWhile Char.isDigit).length ≠ 0 := by simpa using some'
  omega

section Runs

variable {rest : List Char} (ended : ∀ c ∈ rest.head?, c.isDigit = false)

include ended

theorem digits?_append {digits : List Char} (some' : digits ≠ []) (decimal : ∀ c ∈ digits, c.isDigit) :
    digits? (digits ++ rest) = some (digits, rest) := by
  have stop : rest.takeWhile Char.isDigit = [] ∧ rest.dropWhile Char.isDigit = rest := by
    cases rest with
    | nil => exact ⟨rfl, rfl⟩
    | cons c rest =>
      have other := ended c rfl
      exact ⟨List.takeWhile_cons_of_neg (by simp [other]), List.dropWhile_cons_of_neg (by simp [other])⟩
  have taken : (digits ++ rest).takeWhile Char.isDigit = digits := by
    rw [List.takeWhile_append_of_pos decimal, stop.1, List.append_nil]
  have left : (digits ++ rest).dropWhile Char.isDigit = rest := by
    rw [List.dropWhile_append_of_pos decimal, stop.2]
  rw [digits?, taken, left, if_neg (by simpa using some')]

theorem digits?_toDigits (n : Nat) :
    digits? (Nat.toDigits 10 n ++ rest) = some (Nat.toDigits 10 n, rest) :=
  digits?_append ended Nat.toDigits_ne_nil
    fun _ inside => Nat.isDigit_of_mem_toDigits (by decide) (by decide) inside

end Runs

theorem natural_toDigits (n : Nat) : natural (Nat.toDigits 10 n) = n :=
  Nat.ofDigitChars_ten_toDigits

end SqlSelect.Text
