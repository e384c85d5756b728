import SqlSelect.Proofs.Renumber
import SqlSelect.Proofs.Seam
set_option autoImplicit false

/-! The placeholders of a dialect in the texts of a statement: how they are read and raised, and that
the pieces of a statement can be read and raised one by one. -/
namespace SqlSelect

open Placeholder Text

theorem Text.not_isDecimalDigit_of_isSeparator {c : Char} (h : isSeparator c) :
    isDecimalDigit c = false := by
  simp only [isSeparator, Bool.or_eq_true, decide_eq_true_eq] at h
  rcases h with ((rfl | rfl) | rfl) | rfl <;> decide

namespace Dialect

/-- The dialect writes a placeholder as this one character and a number, and the character has no other
part in what the dialect writes by itself. -/
structure MarkedBy (d : Dialect) (m : Char) : Prop where
  placeholders : d.placeholders = .numbered (String.singleton m)
  notDigit : isDecimalDigit m = false
  notSeparator : isSeparator m = false
  notQuote : d.quote ≠ m
  quoteNotDigit : isDecimalDigit d.quote = false

theorem postgres_markedBy : postgres.MarkedBy '$' :=
  ⟨rfl, by decide, by decide, by decide, by decide⟩

theorem sqlite_markedBy : sqlite.MarkedBy '?' :=
  ⟨rfl, by decide, by decide, by decide, by decide⟩

/-- What the placeholders in a text read; those without a number read nothing. -/
def numbersIn (d : Dialect) (s : String) : List (Option Nat) :=
  match d.placeholders with
  | .positional => []
  | .numbered marker => numbers marker.toList s.toList

/-- Whether a text holds what reads as a numbered placeholder. -/
def holdsToken (d : Dialect) (s : String) : Bool :=
  match d.placeholders with
  | .positional => false
  | .numbered marker => Placeholder.holdsToken marker.toList s.toList

/-- Whether a template would have a digit right behind a placeholder, or holds a placeholder already. -/
def spoilsTemplate (d : Dialect) (s : String) : Bool :=
  match d.placeholders with
  | .positional => false
  | .numbered marker =>
    Placeholder.holdsToken marker.toList s.toList || Placeholder.holdsToken ['?'] s.toList

/-- The dialect has no numbers in its placeholders, or writes them behind one character. -/
def Readable (d : Dialect) : Prop :=
  d.placeholders = .positional ∨ ∃ m, d.MarkedBy m

/-- The dialect can write placeholders for so many values. -/
def Carries (d : Dialect) (count : Nat) : Prop :=
  d.placeholders = .positional ∨ count ≤ maxNumber

theorem Carries.mono {d : Dialect} {count more : Nat} (carries : d.Carries more)
    (least : count ≤ more) : d.Carries count :=
  carries.imp_right fun fits => Nat.le_trans least fits

section Marked

variable {d : Dialect} {m : Char} (marked : d.MarkedBy m)

include marked

theorem MarkedBy.numbersIn_eq (s : String) : d.numbersIn s = numbers [m] s.toList := by
  simp [numbersIn, marked.placeholders]

theorem MarkedBy.holdsToken_eq (s : String) :
    d.holdsToken s = Placeholder.holdsToken [m] s.toList := by
  simp [holdsToken, marked.placeholders]

theorem MarkedBy.spoilsTemplate_eq_false (s : String) :
    d.spoilsTemplate s = false ↔
      Placeholder.holdsToken [m] s.toList = false ∧ Placeholder.holdsToken ['?'] s.toList = false := by
  simp [spoilsTemplate, marked.placeholders]

theorem MarkedBy.renumber_eq (offset : Nat) (s : String) :
    d.renumber offset s = String.ofList (shiftChars [m] [m] offset s.toList) := by
  simp [renumber, marked.placeholders, shift]

theorem MarkedBy.placeholder_eq (n : Nat) :
    d.placeholder n = String.ofList (m :: Nat.toDigits 10 n) := by
  simp [placeholder, marked.placeholders, toString, Nat.repr]

theorem MarkedBy.fits_of_carries {count : Nat} (carries : d.Carries count) : count ≤ maxNumber := by
  refine carries.resolve_left fun positional => ?_
  rw [marked.placeholders] at positional
  cases positional

theorem MarkedBy.numbersIn_placeholder {n : Nat} (fits : n ≤ maxNumber) :
    d.numbersIn (d.placeholder n) = [some n] := by
  have alone := numbers_placeholder (m := m) (t := []) fits rfl
  rw [List.append_nil, numbers_nil] at alone
  rw [marked.numbersIn_eq, marked.placeholder_eq, String.toList_ofList, alone]

theorem MarkedBy.digitFree : DigitFree [m] :=
  digitFree_singleton marked.notDigit

/-- Nothing is read across a seam. -/
theorem MarkedBy.apart_of_seam {s t : String} (seam : closes s ∨ opens t) :
    startsWithDigit t.toList = false ∨
      ∀ c ∈ s.toList.getLast?, c ≠ m ∧ isDecimalDigit c = false := by
  rcases seam with closed | opened
  · right
    intro c last
    rw [closes, Option.all_eq_true] at closed
    have separator := closed c last
    refine ⟨?_, not_isDecimalDigit_of_isSeparator separator⟩
    rintro rfl
    rw [marked.notSeparator] at separator
    cases separator
  · left
    cases front : t.toList with
    | nil => rfl
    | cons c rest =>
      rw [opens, front] at opened
      exact not_isDecimalDigit_of_isSeparator opened

end Marked

variable {d : Dialect}

theorem Readable.numbersIn_append (readable : d.Readable) {s t : String}
    (seam : closes s ∨ opens t) : d.numbersIn (s ++ t) = d.numbersIn s ++ d.numbersIn t := by
  rcases readable with positional | ⟨m, marked⟩
  · simp [numbersIn, positional]
  · rw [marked.numbersIn_eq, marked.numbersIn_eq, marked.numbersIn_eq, String.toList_append,
      numbers_append (marked.apart_of_seam seam)]

theorem Readable.renumber_append (readable : d.Readable) (offset : Nat) {s t : String}
    (seam : closes s ∨ opens t) :
    d.renumber offset (s ++ t) = d.renumber offset s ++ d.renumber offset t := by
  rcases readable with positional | ⟨m, marked⟩
  · simp [renumber, positional]
  · rw [marked.renumber_eq, marked.renumber_eq, marked.renumber_eq, String.toList_append,
      shiftChars_append offset (marked.apart_of_seam seam), String.ofList_append]

theorem Readable.numbersIn_of_no_token (readable : d.Readable) {s : String}
    (free : d.holdsToken s = false) : d.numbersIn s = [] := by
  rcases readable with positional | ⟨m, marked⟩
  · simp [numbersIn, positional]
  · rw [marked.holdsToken_eq] at free
    rw [marked.numbersIn_eq, numbers_of_not_holdsToken free]

theorem Readable.renumber_of_no_token (readable : d.Readable) (offset : Nat) {s : String}
    (free : d.holdsToken s = false) : d.renumber offset s = s := by
  rcases readable with positional | ⟨m, marked⟩
  · simp [renumber, positional]
  · rw [marked.holdsToken_eq] at free
    rw [marked.renumber_eq, shiftChars_of_not_holdsToken offset free, String.ofList_toList]

theorem Readable.fits_of_mem_numbersIn (readable : d.Readable) {count : Nat} {r : Option Nat}
    {s : String} (carries : d.Carries count) (inside : r ∈ d.numbersIn s) : count ≤ maxNumber := by
  rcases readable with positional | ⟨m, marked⟩
  · rw [numbersIn, positional] at inside
    cases inside
  · exact marked.fits_of_carries carries

theorem Readable.mem_numbersIn_placeholder (readable : d.Readable) {n k : Nat}
    (carries : d.Carries n) (inside : some k ∈ d.numbersIn (d.placeholder n)) : k = n := by
  rcases readable with positional | ⟨m, marked⟩
  · rw [numbersIn, positional] at inside
    cases inside
  · rw [marked.numbersIn_placeholder (marked.fits_of_carries carries), List.mem_singleton] at inside
    exact Option.some.inj inside

theorem Readable.renumber_placeholder (readable : d.Readable) {offset n : Nat}
    (carries : d.Carries (n + offset)) :
    d.renumber offset (d.placeholder n) = d.placeholder (n + offset) := by
  rcases readable with positional | ⟨m, marked⟩
  · simp [renumber, placeholder, positional]
  · have none : shiftChars [m] [m] offset [] = [] := shiftChars_of_not_holdsToken offset rfl
    have alone := shiftChars_placeholder (m := m) (t := []) (marked.fits_of_carries carries) rfl
    rw [none, List.append_nil, List.append_nil] at alone
    rw [marked.renumber_eq, marked.placeholder_eq, marked.placeholder_eq, String.toList_ofList, alone]

theorem Readable.renumber_renumber (readable : d.Readable) {a b : Nat} {s : String}
    (fits : ∀ n, some n ∈ d.numbersIn s → n + a + b ≤ maxNumber) :
    d.renumber b (d.renumber a s) = d.renumber (a + b) s := by
  rcases readable with positional | ⟨m, marked⟩
  · simp [renumber, positional]
  · rw [marked.numbersIn_eq] at fits
    rw [marked.renumber_eq, marked.renumber_eq, marked.renumber_eq, String.toList_ofList,
      shiftChars_shiftChars marked.digitFree fits]

theorem Readable.numbersIn_renumber (readable : d.Readable) {offset : Nat} {s : String}
    (fits : ∀ n, some n ∈ d.numbersIn s → n + offset ≤ maxNumber) :
    d.numbersIn (d.renumber offset s) = (d.numbersIn s).map (Option.map (· + offset)) := by
  rcases readable with positional | ⟨m, marked⟩
  · simp [numbersIn, positional]
  · rw [marked.numbersIn_eq] at fits ⊢
    rw [marked.numbersIn_eq, marked.renumber_eq, String.toList_ofList,
      numbers_shiftChars marked.digitFree fits]

end Dialect

end SqlSelect
