set_option autoImplicit false

/-! IEEE 754 doubles kept as their 64 bits. Two of them are equal exactly when their bits are; the
comparison of the standard, in which NaN differs from itself and the two zeros agree, is apart. -/
namespace SqlSelect

structure Binary64 where
  bits : UInt64
  deriving DecidableEq, Inhabited

namespace Binary64

def ofFloat (x : Float) : Binary64 :=
  ⟨x.toBits⟩

/-- Widening a single is exact. -/
def ofFloat32 (x : Float32) : Binary64 :=
  ofFloat x.toFloat

/-- The weight of the leading bit of a normal significand. -/
def leadingBit : Nat := 0x10000000000000

def isNegative (x : Binary64) : Bool :=
  0x8000000000000000 ≤ x.bits.toNat

/-- The exponent field, eleven bits. -/
def biasedExponent (x : Binary64) : Nat :=
  x.bits.toNat / leadingBit % 0x800

/-- The fraction field, fifty-two bits. -/
def fraction (x : Binary64) : Nat :=
  x.bits.toNat % leadingBit

def isNaN (x : Binary64) : Bool :=
  x.biasedExponent = 2047 && x.fraction ≠ 0

def isInfinite (x : Binary64) : Bool :=
  x.biasedExponent = 2047 && x.fraction = 0

def isZero (x : Binary64) : Bool :=
  x.biasedExponent = 0 && x.fraction = 0

/-- Comparison as the standard has it. -/
def agrees (x y : Binary64) : Bool :=
  !x.isNaN && !y.isNaN && (x = y || x.isZero && y.isZero)

theorem agrees_comm (x y : Binary64) : x.agrees y = y.agrees x := by
  simp only [agrees, eq_comm (a := x) (b := y)]
  cases x.isNaN <;> cases y.isNaN <;> cases x.isZero <;> cases y.isZero <;> simp

end Binary64

end SqlSelect
