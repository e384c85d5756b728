import SqlSelect.Binary64.Basic
set_option autoImplicit false

/-! The shortest decimal text of a double: of all decimals that read back to it, one with the fewest
digits, and the nearest of those. Every finite double is a whole number of units of
`10 ^ (-places)`, so the search is exact arithmetic on natural numbers. -/
namespace SqlSelect.Binary64

/-- A quarter of the last place of the least double is `2 ^ (-1076)`, hence a whole number of units
of `10 ^ (-1076)`. -/
def places : Nat := 1076

/-- A value and the two ends of the interval of reals that round to it, all in the same unit. -/
structure RoundingInterval where
  value : Nat
  low : Nat
  high : Nat
  closed : Bool

def RoundingInterval.contains (r : RoundingInterval) (n : Nat) : Bool :=
  if r.closed then r.low ≤ n && n ≤ r.high else r.low < n && n < r.high

/-- The interval of a nonzero finite double, counted in quarters of its last place. It reaches half a
place to each side, below a power of two only a quarter; its ends belong to it when the significand
is even. -/
def roundingInterval (x : Binary64) : RoundingInterval :=
  let significand := if x.biasedExponent = 0 then x.fraction else leadingBit + x.fraction
  let quarter := Nat.pow 2 (x.biasedExponent - 1) * Nat.pow 5 places
  let below := if x.fraction = 0 && 1 < x.biasedExponent then 1 else 2
  { value := 4 * significand * quarter
    low := (4 * significand - below) * quarter
    high := (4 * significand + 2) * quarter
    closed := significand % 2 = 0 }

/-- The multiple of `step` that lies in the interval and is nearest to its value; halfway between
two, the upper one. -/
def RoundingInterval.nearest? (r : RoundingInterval) (step : Nat) : Option Nat :=
  let below := r.value / step * step
  let above := below + step
  match r.contains below, r.contains above with
  | true, true => some (if r.value - below < above - r.value then below else above)
  | true, false => some below
  | false, true => some above
  | false, false => none

/-- The shortest decimal that reads back, in units of `10 ^ (-places)`. Seventeen digits always
suffice. -/
def shortest (x : Binary64) : Nat :=
  let r := x.roundingInterval
  let digits := (Nat.toDigits 10 r.value).length
  ((List.range 17).findSome? fun n => r.nearest? (Nat.pow 10 (digits - (n + 1)))).getD r.value

/-- The digits after the point, without the zeros at the end. -/
def fractionDigits (n : Nat) : List Char :=
  let digits := Nat.toDigits 10 n
  let padded := List.replicate (places - digits.length) '0' ++ digits
  (padded.reverse.dropWhile (· = '0')).reverse

/-- Positional notation, without an exponent and without an empty fraction. -/
def positional (n : Nat) : String :=
  let whole := toString (n / Nat.pow 10 places)
  match fractionDigits (n % Nat.pow 10 places) with
  | [] => whole
  | digits => whole ++ "." ++ String.ofList digits

/-- The text of a double: `NaN`, `inf` or its shortest digits, with the sign of a zero kept. -/
def text (x : Binary64) : String :=
  if x.isNaN then "NaN"
  else
    (if x.isNegative then "-" else "") ++
      (if x.isInfinite then "inf" else if x.isZero then "0" else positional x.shortest)

end SqlSelect.Binary64
