import SqlSelect.Proofs.Template
set_option autoImplicit false

/-! Where no quote stands. A dialect with double quotes writes one only around a name; its keywords,
numbers and placeholders are free of them. -/
namespace SqlSelect

open Emitter Placeholder Text

namespace Dialect

variable {d : Dialect}

theorem MarkedBy.quote_not_mem_placeholder {m : Char} (marked : d.MarkedBy m) (n : Nat) :
    d.quote ∉ (d.placeholder n).toList := by
  intro inside
  rw [marked.placeholder_eq, String.toList_ofList, List.mem_cons] at inside
  rcases inside with same | printed
  · exact marked.notQuote same
  · have digit := Nat.isDigit_of_mem_toDigits (by decide) (by decide) printed
    have decimal := isDecimalDigit_of_isDigit digit
    rw [marked.quoteNotDigit] at decimal
    cases decimal

variable (standard : d.quote = '"')

include standard

theorem quote_not_separator : isSeparator d.quote = false := by
  rw [standard]
  decide

/-- No two quotes meet at a seam. -/
theorem apart_of_seam {s t : String} (seam : closes s ∨ opens t) :
    s.toList.getLast? ≠ some d.quote ∨ t.toList.head? ≠ some d.quote := by
  refine seam.imp (fun closed last => ?_) fun opened head => ?_
  · rw [closes, last] at closed
    exact absurd closed (by simp [quote_not_separator standard])
  · rw [opens, head] at opened
    exact absurd opened (by simp [quote_not_separator standard])

theorem not_mem_of_isKeyword {s : String} (word : isKeyword s) : d.quote ∉ s.toList := by
  intro inside
  rw [isKeyword, List.all_eq_true] at word
  have kind := word _ inside
  rw [standard] at kind
  exact absurd kind (by decide)

theorem not_mem_of_all {s : String} (others : s.toList.all (· != '"')) : d.quote ∉ s.toList := by
  intro inside
  rw [List.all_eq_true] at others
  simpa [standard] using others _ inside

theorem quote_not_mem_constant (holds : Bool) :
    d.quote ∉ (if holds then "1 = 1" else "1 = 0").toList :=
  not_mem_of_all standard (by cases holds <;> decide)

theorem quote_not_mem_number (n : Nat) : d.quote ∉ (toString n).toList := by
  intro inside
  have digit : d.quote ∈ Nat.toDigits 10 n := by simpa [toString, Nat.repr] using inside
  have isDigit := Nat.isDigit_of_mem_toDigits (by decide) (by decide) digit
  rw [standard] at isDigit
  exact absurd isDigit (by decide)

theorem Readable.quote_not_mem_placeholder (readable : d.Readable) (n : Nat) :
    d.quote ∉ (d.placeholder n).toList := by
  rcases readable with positional | ⟨m, marked⟩
  · have bare : d.placeholder n = "?" := by rw [placeholder, positional]
    rw [bare]
    exact not_mem_of_all standard (by decide)
  · exact marked.quote_not_mem_placeholder n

theorem Readable.quote_not_mem_filled (readable : d.Readable) {template : List Char}
    (free : d.quote ∉ template) (bound : Nat) : d.quote ∉ filled d template bound := by
  induction template generalizing bound with
  | nil => exact List.not_mem_nil
  | cons c rest ih =>
    rw [List.mem_cons, not_or] at free
    rw [filled]
    split
    · rw [List.mem_append, not_or]
      exact ⟨readable.quote_not_mem_placeholder standard (bound + 1), ih free.2 (bound + 1)⟩
    · rw [List.mem_cons, not_or]
      exact ⟨free.1, ih free.2 bound⟩

end Dialect

end SqlSelect
