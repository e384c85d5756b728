import SqlSelect.Binary64.Shortest
import SqlSelect.Value.Basic
set_option autoImplicit false

/-! A value written out as an SQL literal, for logs. A text stands between single quotes with every
quote in it doubled, so the end of the literal is never in doubt. -/
namespace SqlSelect.Value

/-- Doubles every single quote. -/
def doubleQuotes (cs : List Char) : List Char :=
  cs.flatMap fun c => if c = '\'' then ['\'', '\''] else [c]

def upperHexDigit (n : Nat) : Char :=
  (Nat.digitChar n).toUpper

/-- A byte as two upper-case hexadecimal digits. -/
def byteDigits (b : UInt8) : List Char :=
  [upperHexDigit (b.toNat / 16), upperHexDigit (b.toNat % 16)]

mutual

/-- The literal that denotes the value. -/
def literal : Value → String
  | null => "NULL"
  | bool b => if b then "TRUE" else "FALSE"
  | int n => toString n.toInt
  | float x => x.text
  | text s => String.ofList ('\'' :: doubleQuotes s.toList ++ ['\''])
  | blob bytes => String.ofList ("X'".toList ++ bytes.flatMap byteDigits ++ ['\''])
  | array items => "ARRAY[" ++ ", ".intercalate (literals items) ++ "]"

def literals : List Value → List String
  | [] => []
  | v :: vs => literal v :: literals vs

end

theorem literals_eq_map (vs : List Value) : literals vs = vs.map literal := by
  induction vs with
  | nil => rfl
  | cons v vs ih => simp [literals, ih]

example : literal (.text "it's") = "'it''s'" := by decide +kernel
example : literal (.blob [0, 0x9A, 0xFF]) = "X'009AFF'" := by decide +kernel
example : literal (.array [.null, .bool true, .int (-5)]) = "ARRAY[NULL, TRUE, -5]" := by
  decide +kernel

end SqlSelect.Value
