import SqlSelect.Binary64.Basic
set_option autoImplicit false

/-! Values that a statement binds to its placeholders, and how host values become such values. -/
namespace SqlSelect

inductive Value where
  | null
  | bool (b : Bool)
  | int (n : Int64)
  | float (x : Binary64)
  | text (s : String)
  | blob (bytes : List UInt8)
  /-- Bound as one parameter. -/
  | array (items : List Value)
  deriving Inhabited

namespace Value

def isNull : Value → Bool
  | null => true
  | _ => false

theorem isNull_iff (v : Value) : v.isNull ↔ v = .null := by
  cases v <;> simp [isNull]

mutual

/-- Equality in which floats compare as IEEE 754 has it: NaN equals nothing, the zeros agree. -/
def agrees : Value → Value → Bool
  | null, null => true
  | bool a, bool b => a = b
  | int a, int b => a = b
  | float a, float b => a.agrees b
  | text a, text b => a = b
  | blob a, blob b => a = b
  | array a, array b => allAgree a b
  | _, _ => false

/-- Agreement position by position, of lists of one length. -/
def allAgree : List Value → List Value → Bool
  | [], [] => true
  | a :: as, b :: bs => agrees a b && allAgree as bs
  | _, _ => false

end

end Value

/-- Types whose members can be bound to a placeholder. -/
class ToValue (α : Type) where
  toValue : α → Value

export ToValue (toValue)

instance : ToValue Value := ⟨id⟩
instance : ToValue Bool := ⟨.bool⟩
instance : ToValue Int64 := ⟨.int⟩
instance : ToValue Int32 := ⟨fun n => .int n.toInt64⟩
instance : ToValue Int16 := ⟨fun n => .int n.toInt64⟩
instance : ToValue UInt32 := ⟨fun n => .int n.toUInt64.toInt64⟩
instance : ToValue UInt16 := ⟨fun n => .int n.toUInt64.toInt64⟩
instance : ToValue Binary64 := ⟨.float⟩
instance : ToValue Float := ⟨fun x => .float (.ofFloat x)⟩
instance : ToValue Float32 := ⟨fun x => .float (.ofFloat32 x)⟩
instance : ToValue String := ⟨.text⟩
instance : ToValue (List UInt8) := ⟨.blob⟩

/-- An absent value is bound as NULL. -/
instance {α : Type} [ToValue α] : ToValue (Option α) := ⟨fun
  | some a => toValue a
  | none => .null⟩

end SqlSelect
