import SqlSelect.Emitter.Basic
import SqlSelect.Proofs.Marker
set_option autoImplicit false

/-! Templates filled with placeholders: the text depends on the values bound before it only through the
numbers, and those are read back in order. -/
namespace SqlSelect

open Placeholder

namespace Emitter

/-- A template with its markers numbered on from `bound`. -/
def filled (d : Dialect) : List Char → Nat → List Char
  | [], _ => []
  | c :: rest, bound =>
    if c = '?' then (d.placeholder (bound + 1)).toList ++ filled d rest (bound + 1)
    else c :: filled d rest bound

theorem markers_cons_marker (rest : List Char) : markers ('?' :: rest) = markers rest + 1 :=
  List.count_cons_self

theorem markers_cons_plain {c : Char} (plain : c ≠ '?') (rest : List Char) :
    markers (c :: rest) = markers rest :=
  List.count_cons_of_ne plain

theorem run_substituted (d : Dialect) {template : List Char} {args : List Value} (bound : Nat)
    (count : markers template = args.length) :
    (substituted d template args).run bound =
      .ok ⟨String.ofList (filled d template bound), args⟩ := by
  induction template generalizing args bound with
  | nil =>
    have none : args = [] := List.length_eq_zero_iff.1 count.symm
    subst none
    rfl
  | cons c rest ih =>
    by_cases marker : c = '?'
    · subst marker
      cases args with
      | nil => simp [markers] at count
      | cons v args =>
        have rest' : markers rest = args.length := by simpa [markers_cons_marker] using count
        have tail := ih (bound + 1) rest'
        refine (run_append_eq_ok_iff ..).2 ⟨_, _, run_parameter d v bound, tail, ?_⟩
        rw [filled, if_pos rfl, String.ofList_append, String.ofList_toList]
        rfl
    · have rest' : markers rest = args.length := (markers_cons_plain marker rest).symm.trans count
      have tail := ih bound rest'
      simp only [substituted, marker, ↓reduceIte]
      refine (run_append_eq_ok_iff ..).2 ⟨_, _, run_text _ bound, tail, ?_⟩
      rw [filled, if_neg marker, String.ofList_cons]
      rfl

theorem run_template (d : Dialect) (sql : RawSql) (bound : Nat) :
    (template d sql).run bound =
      if markers sql.text.toList = sql.args.length then
        .ok ⟨String.ofList (filled d sql.text.toList bound), sql.args⟩
      else .error (.argumentCount (markers sql.text.toList) sql.args.length) := by
  unfold template
  split
  · rename_i count
    exact run_substituted d bound count
  · rfl

theorem filled_positional {d : Dialect} (positional : d.placeholders = .positional)
    (template : List Char) (bound : Nat) : filled d template bound = template := by
  induction template generalizing bound with
  | nil => rfl
  | cons c rest ih =>
    by_cases marker : c = '?'
    · have bare : (d.placeholder (bound + 1)).toList = ['?'] := by
        simp [Dialect.placeholder, positional]
      rw [filled, if_pos marker, ih, bare, marker]
      rfl
    · rw [filled, if_neg marker, ih]

variable {d : Dialect} {m : Char}

theorem startsWithDigit_filled (marked : d.MarkedBy m) (template : List Char) (bound : Nat) :
    startsWithDigit (filled d template bound) = startsWithDigit template := by
  cases template with
  | nil => rfl
  | cons c rest =>
    by_cases marker : c = '?'
    · rw [filled, if_pos marker, marked.placeholder_eq, String.toList_ofList, List.cons_append,
        startsWithDigit_cons, startsWithDigit_cons, marked.notDigit, marker]
      decide
    · rw [filled, if_neg marker, startsWithDigit_cons, startsWithDigit_cons]

theorem numbers_filled (marked : d.MarkedBy m) {template : List Char} {bound : Nat}
    (free : holdsToken [m] template = false) (open' : holdsToken ['?'] template = false)
    (fits : bound + markers template ≤ maxNumber) :
    numbers [m] (filled d template bound) =
      (List.range' (bound + 1) (markers template)).map some := by
  induction template generalizing bound with
  | nil => exact numbers_of_not_holdsToken rfl
  | cons c rest ih =>
    rw [holdsToken_cons, Bool.or_eq_false_iff, Bool.and_eq_false_iff, decide_eq_false_iff_not]
      at free open'
    by_cases marker : c = '?'
    · have count : markers (c :: rest) = markers rest + 1 := marker ▸ markers_cons_marker rest
      rw [count] at fits
      have ended : startsWithDigit (filled d rest (bound + 1)) = false := by
        rw [startsWithDigit_filled marked]
        exact open'.1.resolve_left fun other => other marker
      rw [filled, if_pos marker, marked.placeholder_eq, String.toList_ofList,
        numbers_placeholder (by omega) ended, ih free.2 open'.2 (by omega), count,
        List.range'_succ, List.map_cons]
    · have count := markers_cons_plain marker rest
      rw [filled, if_neg marker, numbers_cons_plain, ih free.2 open'.2 (by omega), count]
      rw [startsWithDigit_filled marked]
      exact free.1

theorem shiftChars_filled (marked : d.MarkedBy m) {template : List Char} {bound offset : Nat}
    (free : holdsToken [m] template = false) (open' : holdsToken ['?'] template = false)
    (fits : bound + offset + markers template ≤ maxNumber) :
    shiftChars [m] [m] offset (filled d template bound) = filled d template (bound + offset) := by
  induction template generalizing bound with
  | nil => exact shiftChars_of_not_holdsToken offset rfl
  | cons c rest ih =>
    rw [holdsToken_cons, Bool.or_eq_false_iff, Bool.and_eq_false_iff, decide_eq_false_iff_not]
      at free open'
    by_cases marker : c = '?'
    · have count : markers (c :: rest) = markers rest + 1 := marker ▸ markers_cons_marker rest
      rw [count] at fits
      have ended : startsWithDigit (filled d rest (bound + 1)) = false := by
        rw [startsWithDigit_filled marked]
        exact open'.1.resolve_left fun other => other marker
      have next : bound + 1 + offset = bound + offset + 1 := by omega
      rw [filled, if_pos marker, filled, if_pos marker, marked.placeholder_eq,
        marked.placeholder_eq, String.toList_ofList, String.toList_ofList,
        shiftChars_placeholder (by omega) ended, ih free.2 open'.2 (by omega), next]
    · have count := markers_cons_plain marker rest
      rw [filled, if_neg marker, filled, if_neg marker, shiftChars_cons_plain,
        ih free.2 open'.2 (by omega)]
      rw [startsWithDigit_filled marked]
      exact free.1

section Readable

variable {s : String} {bound offset : Nat} (readable : d.Readable)
  (free : d.spoilsTemplate s = false)

include readable free

theorem le_of_mem_numbersIn_filled (carries : d.Carries (bound + markers s.toList)) {n : Nat}
    (inside : some n ∈ d.numbersIn (String.ofList (filled d s.toList bound))) :
    n ≤ bound + markers s.toList := by
  rcases readable with positional | ⟨m, marked⟩
  · rw [Dialect.numbersIn, positional] at inside
    cases inside
  · obtain ⟨free, open'⟩ := (marked.spoilsTemplate_eq_false s).1 free
    rw [marked.numbersIn_eq, String.toList_ofList,
      numbers_filled marked free open' (marked.fits_of_carries carries), List.mem_map] at inside
    obtain ⟨k, range, same⟩ := inside
    rw [List.mem_range'_1] at range
    cases same
    omega

theorem renumber_filled (carries : d.Carries (bound + offset + markers s.toList)) :
    d.renumber offset (String.ofList (filled d s.toList bound)) =
      String.ofList (filled d s.toList (bound + offset)) := by
  rcases readable with positional | ⟨m, marked⟩
  · simp [Dialect.renumber, positional, filled_positional]
  · obtain ⟨free, open'⟩ := (marked.spoilsTemplate_eq_false s).1 free
    rw [marked.renumber_eq, String.toList_ofList,
      shiftChars_filled marked free open' (marked.fits_of_carries carries)]

end Readable

end Emitter

end SqlSelect
