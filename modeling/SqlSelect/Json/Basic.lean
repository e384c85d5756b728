import SqlSelect.Binary64.Basic
import SqlSelect.Text.Numeral
set_option autoImplicit false

/-! JSON values, and the literals of the numbers among them. A literal without point and exponent is an integer
while it fits 64 bits. Any other is a double, made from a 64-bit significand by one multiplication or division by
a power of ten, so the last bit can differ from the nearest double. -/
namespace SqlSelect

/-- Members of an object are kept as they were written, repeated names included. -/
inductive Json where
  | null
  | bool (b : Bool)
  /-- An integer that a signed 64-bit word can hold. -/
  | signed (n : Int64)
  /-- A larger integer that an unsigned 64-bit word can still hold. -/
  | unsigned (n : UInt64)
  | float (x : Binary64)
  | string (s : String)
  | array (items : List Json)
  | object (members : List (String × Json))
  deriving Inhabited

namespace Json

open Text (digits? natural)

/-- One more than the largest signed 64-bit integer. -/
def signedLimit : Nat := 0x8000000000000000

/-- The parts of a number literal. -/
structure NumberLiteral where
  negative : Bool
  whole : List Char
  /-- The digits after the point, if there is a point. -/
  fraction : Option (List Char)
  exponent : Option Int

/-- The exponent at the start of a text, if there is one; nothing if it is malformed. -/
def exponent? : List Char → Option (Option Int × List Char)
  | [] => some (none, [])
  | c :: rest =>
    if c ∈ ['e', 'E'] then
      match rest with
      | '+' :: rest => (digits? rest).map fun (ds, rest) => (some (natural ds : Int), rest)
      | '-' :: rest => (digits? rest).map fun (ds, rest) => (some (-(natural ds : Int)), rest)
      | rest => (digits? rest).map fun (ds, rest) => (some (natural ds : Int), rest)
    else some (none, c :: rest)

/-- The fraction at the start of a text, if there is one; nothing if it is malformed. -/
def fraction? : List Char → Option (Option (List Char) × List Char)
  | '.' :: rest => (digits? rest).map fun (ds, rest) => (some ds, rest)
  | rest => some (none, rest)

/-- Reads a whole text as a number literal. A zero stands alone before the point. -/
def NumberLiteral.ofText? (cs : List Char) : Option NumberLiteral := do
  let (negative, cs) := match cs with
    | '-' :: rest => (true, rest)
    | _ => (false, cs)
  let (whole, cs) ← digits? cs
  let (fraction, cs) ← fraction? cs
  let (exponent, cs) ← exponent? cs
  if cs.isEmpty && (whole.head? ≠ some '0' || whole.length = 1) then
    some { negative, whole, fraction, exponent }
  else none

/-- The integers below this can be a significand. -/
def wordSize : Nat := 0x10000000000000000

/-- Digits taken into a significand while it fits a word, and the digits left over. -/
def accumulate (significand : Nat) : List Char → Nat × List Char
  | [] => (significand, [])
  | d :: rest =>
    let next := Nat.ofDigitChars 10 [d] significand
    if next < wordSize then accumulate next rest else (significand, d :: rest)

/-- Division by `10 ^ power`, by `10 ^ 308` at a time for larger powers. -/
def divide (f : Float) (power : Nat) : Float :=
  if power ≤ 308 then f / Float.ofScientific 1 false power
  else if f == 0 then f
  else divide (f / Float.ofScientific 1 false 308) (power - 308)
termination_by power

/-- `significand * 10 ^ exponent` as a double, unless it is too large for one. -/
def scale? (significand : Nat) (exponent : Int) : Option Float :=
  let f := significand.toUInt64.toFloat
  if exponent < 0 then some (divide f exponent.natAbs)
  else if significand = 0 then some f
  else if exponent ≤ 308 then
    let scaled := f * Float.ofScientific 1 false exponent.natAbs
    if scaled.isInf then none else some scaled
  else none

/-- The double of a literal. Digits of the whole part beyond a word count as zeros; once a digit of
the fraction does not fit, the rest of the fraction is ignored. -/
def NumberLiteral.toFloat? (l : NumberLiteral) : Option Float :=
  let (whole, dropped) := accumulate 0 l.whole
  let fraction := l.fraction.getD []
  let (significand, ignored) := accumulate whole fraction
  let places := fraction.length - ignored.length
  let exponent := l.exponent.getD 0 + dropped.length - places
  (scale? significand exponent).map fun f => if l.negative then -f else f

/-- The value of a literal; nothing if a double would overflow. Minus zero is a double. -/
def NumberLiteral.value? (l : NumberLiteral) : Option Json :=
  let n := natural l.whole
  if l.fraction.isNone && l.exponent.isNone && n < wordSize then
    if !l.negative then
      if n < signedLimit then some (.signed (Int64.ofNat n)) else some (.unsigned (UInt64.ofNat n))
    else if 0 < n && n ≤ signedLimit then some (.signed (Int64.ofInt (-n)))
    else some (.float (.ofFloat (-(n.toUInt64.toFloat))))
  else l.toFloat?.map fun f => .float (.ofFloat f)

end Json

end SqlSelect
