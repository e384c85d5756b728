import SqlSelect.Placeholder.Token
set_option autoImplicit false

/-! Renumbering: the number of every placeholder of a text is raised by one offset. A token whose
number is not written in ASCII digits, or does not fit a machine word before or after the shift,
stays as it is. -/
namespace SqlSelect.Placeholder

/-- The largest number that a placeholder can carry. -/
def maxNumber : Nat := 0xFFFFFFFFFFFFFFFF

/-- The number that the digits denote, if it is one that a placeholder can carry. -/
def number? (digits : List Char) : Option Nat :=
  let n := Nat.ofDigitChars 10 digits 0
  if digits.all Char.isDigit && n ≤ maxNumber then some n else none

/-- A placeholder as it is written. -/
def write (marker : List Char) (n : Nat) : List Char :=
  marker ++ Nat.toDigits 10 n

/-- A piece after the shift; a token that can be renumbered is written with `newMarker`. -/
def shiftPiece (marker newMarker : List Char) (offset : Nat) : Piece → List Char
  | .plain c => [c]
  | .numbered digits =>
    match number? digits with
    | some n => if n + offset ≤ maxNumber then write newMarker (n + offset) else marker ++ digits
    | none => marker ++ digits

def shiftChars (marker newMarker : List Char) (offset : Nat) (text : List Char) : List Char :=
  if offset = 0 then text
  else (scan marker text).flatMap (shiftPiece marker newMarker offset)

/-- Raises every number after `marker` by `offset` and writes it after `newMarker`; an offset of zero
changes nothing. -/
def shift (marker newMarker : String) (offset : Nat) (sql : String) : String :=
  String.ofList (shiftChars marker.toList newMarker.toList offset sql.toList)

theorem shift_zero (marker newMarker sql : String) : shift marker newMarker 0 sql = sql := by
  simp [shift, shiftChars]

theorem number?_toDigits {n : Nat} (h : n ≤ maxNumber) :
    number? (Nat.toDigits 10 n) = some n := by
  have hdigits : (Nat.toDigits 10 n).all Char.isDigit := by
    rw [List.all_eq_true]
    intro c hc
    exact Nat.isDigit_of_mem_toDigits (by decide) (by decide) hc
  simp [number?, hdigits, h]

end SqlSelect.Placeholder
