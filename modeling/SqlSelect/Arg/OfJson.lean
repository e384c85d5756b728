import SqlSelect.Arg.Basic
import SqlSelect.Json.Basic
set_option autoImplicit false

/-! Arguments from JSON values: arrays become lists, objects and integers above the signed 64-bit range
are refused, the leftmost one first. A value that is not an array either stands for a value to bind or is refused
on its own account. -/
namespace SqlSelect

namespace Json

/-- What keeps a node from being bound. -/
def mismatch? : Json → Option Mismatch
  | .unsigned n => if Int64.maxValue.toInt < n.toNat then some (.integerTooLarge n) else none
  | .object _ => some .jsonObject
  | _ => none

/-- A scalar of JSON and the value that it stands for. -/
inductive Denotes : Json → Value → Prop where
  | null : Denotes .null .null
  | bool (b : Bool) : Denotes (.bool b) (.bool b)
  | signed (n : Int64) : Denotes (.signed n) (.int n)
  | unsigned {n : UInt64} {i : Int64} (same : i.toInt = n.toNat) : Denotes (.unsigned n) (.int i)
  | float (x : Binary64) : Denotes (.float x) (.float x)
  | string (s : String) : Denotes (.string s) (.text s)

theorem mismatch?_eq_none_iff {j : Json} : j.mismatch? = none ↔
    (∀ members, j ≠ .object members) ∧ ∀ n, j = .unsigned n → n.toNat ≤ Int64.maxValue.toInt := by
  cases j <;> simp [mismatch?]

/-- A node that nothing keeps from being bound is an array or stands for a value. -/
theorem exists_denotes {j : Json} (single : ∀ items, j ≠ .array items) (fits : j.mismatch? = none) :
    ∃ v, j.Denotes v := by
  cases j with
  | null => exact ⟨_, .null⟩
  | bool b => exact ⟨_, .bool b⟩
  | signed n => exact ⟨_, .signed n⟩
  | unsigned n =>
    rw [mismatch?, ite_eq_right_iff] at fits
    have small : n.toNat < 2 ^ 63 := by
      have := Int64.toInt_maxValue
      refine Nat.lt_of_not_le fun large => ?_
      exact absurd (fits (by omega)) (by simp)
    exact ⟨_, .unsigned (Int64.toInt_ofNat_of_lt small)⟩
  | float x => exact ⟨_, .float x⟩
  | string s => exact ⟨_, .string s⟩
  | array items => exact absurd rfl (single items)
  | object members => cases fits

end Json

namespace Arg

mutual

def ofJson : Json → Except Fault Arg
  | .null => .ok null
  | .bool b => .ok (of b)
  | .signed n => .ok (of n)
  | .unsigned n =>
    if n.toNat < Json.signedLimit then .ok (of (Int64.ofNat n.toNat))
    else .error (.typeMismatch (.integerTooLarge n))
  | .float x => .ok (of x)
  | .string s => .ok (of s)
  | .array items => list <$> ofJsons items
  | .object _ => .error (.typeMismatch .jsonObject)

def ofJsons : List Json → Except Fault (List Arg)
  | [] => .ok []
  | j :: rest => do
    let arg ← ofJson j
    let args ← ofJsons rest
    return arg :: args

end

open Json

theorem ofJson_of_denotes {j : Json} {v : Value} (denotes : j.Denotes v) : ofJson j = .ok (value v) := by
  cases denotes with
  | @unsigned n i same =>
    have small : n.toNat < signedLimit := by
      have := Int64.toInt_lt i
      unfold signedLimit
      omega
    have number : Int64.ofNat n.toNat = i := by
      rw [← Int64.toInt_inj, Int64.toInt_ofNat_of_lt small, same]
    rw [ofJson, if_pos small, number]
    rfl
  | null | bool | signed | float | string => rfl

theorem ofJson_of_mismatch {j : Json} {m : Mismatch} (found : j.mismatch? = some m) :
    ofJson j = .error (.typeMismatch m) := by
  cases j with
  | unsigned n =>
    rw [mismatch?, Option.ite_none_right_eq_some] at found
    obtain ⟨above, cause⟩ := found
    have large : ¬ n.toNat < signedLimit := by
      have := Int64.toInt_maxValue
      unfold signedLimit
      omega
    rw [ofJson, if_neg large, Option.some.inj cause]
  | object members =>
    cases found
    rfl
  | null | bool | signed | float | string | array => cases found

theorem message_of_mismatch {n : UInt64} {m : Mismatch} (found : mismatch? (.unsigned n) = some m) :
    (Fault.typeMismatch m).message = "type mismatch: integer " ++ toString n.toNat ++ " exceeds i64" := by
  rw [mismatch?, Option.ite_none_right_eq_some] at found
  obtain ⟨-, cause⟩ := found
  cases cause
  have label : "type mismatch: " ++ "integer " = "type mismatch: integer " := by decide
  calc
    (Fault.typeMismatch (.integerTooLarge n)).message =
        "type mismatch: " ++ ("integer " ++ toString n.toNat ++ " exceeds i64") := rfl
    _ = "type mismatch: " ++ "integer " ++ toString n.toNat ++ " exceeds i64" := by
      rw [String.append_assoc, String.append_assoc, String.append_assoc]
    _ = "type mismatch: integer " ++ toString n.toNat ++ " exceeds i64" := by rw [label]

end Arg

end SqlSelect
