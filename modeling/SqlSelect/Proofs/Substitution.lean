import SqlSelect.Proofs.Template
set_option autoImplicit false

/-! Templates between their markers: every piece of text is kept, and the placeholders stand between the
pieces. They read in order as long as no digit stands right behind a marker. A digit that does runs together
with the number before it. -/
namespace SqlSelect

open Placeholder
open Text (isDecimalDigit)

namespace Placeholder

theorem lt_ofDigitChars_toDigits_append {n : Nat} (positive : 0 < n) {digits : List Char}
    (more : digits ≠ []) : n < Nat.ofDigitChars 10 (Nat.toDigits 10 n ++ digits) 0 := by
  have longer : 10 ≤ 10 ^ digits.length := Nat.le_self_pow (List.length_pos_iff.2 more).ne' 10
  calc
    n < 10 * n := by omega
    _ ≤ 10 ^ digits.length * n := Nat.mul_le_mul_right n longer
    _ ≤ 10 ^ digits.length * n + Nat.ofDigitChars 10 digits 0 := Nat.le_add_right ..
    _ = Nat.ofDigitChars 10 (Nat.toDigits 10 n ++ digits) 0 := by
      rw [Nat.ofDigitChars_append, Nat.ofDigitChars_ten_toDigits]
      exact Nat.ofDigitChars_eq_ofDigitChars_zero.symm

/-- Digits behind a number make a larger number of it, or none. -/
theorem number?_toDigits_append {n : Nat} (positive : 0 < n) {digits : List Char} (more : digits ≠ []) :
    number? (Nat.toDigits 10 n ++ digits) ≠ some n := by
  intro same
  rw [number?, Option.ite_none_right_eq_some] at same
  exact (lt_ofDigitChars_toDigits_append positive more).ne' (Option.some.inj same.2)

theorem takeWhile_ne_nil_of_startsWithDigit {text : List Char} (digit : startsWithDigit text) :
    text.takeWhile isDecimalDigit ≠ [] := by
  cases text with
  | nil => cases digit
  | cons c rest =>
    have decimal : isDecimalDigit c := digit
    rw [List.takeWhile_cons_of_pos decimal]
    exact List.cons_ne_nil _ _

/-- A placeholder takes in the digits behind it. -/
theorem numbers_placeholder_append (m : Char) (n : Nat) (text : List Char) :
    numbers [m] (m :: Nat.toDigits 10 n ++ text) =
      number? (Nat.toDigits 10 n ++ text.takeWhile isDecimalDigit) ::
        numbers [m] (text.dropWhile isDecimalDigit) := by
  have decimal : ∀ c ∈ Nat.toDigits 10 n ++ text.takeWhile isDecimalDigit, isDecimalDigit c := by
    intro c inside
    rcases List.mem_append.1 inside with printed | taken
    · exact Text.isDecimalDigit_of_isDigit
        (Nat.isDigit_of_mem_toDigits (by decide) (by decide) printed)
    · exact List.all_eq_true.1 List.all_takeWhile c taken
  have split : m :: Nat.toDigits 10 n ++ text =
      m :: (Nat.toDigits 10 n ++ text.takeWhile isDecimalDigit) ++ text.dropWhile isDecimalDigit := by
    rw [List.cons_append, List.cons_append, List.append_assoc, List.takeWhile_append_dropWhile]
  rw [split, numbers, scan_written (List.append_ne_nil_of_left_ne_nil Nat.toDigits_ne_nil _) decimal
    (not_startsWithDigit_dropWhile text)]
  rfl

end Placeholder

namespace Emitter

/-- The pieces in order, with the next placeholder between any two. -/
def woven (d : Dialect) : List (List Char) → Nat → List Char
  | [], _ => []
  | [piece], _ => piece
  | piece :: rest, bound => piece ++ (d.placeholder (bound + 1)).toList ++ woven d rest (bound + 1)

theorem woven_cons_cons (d : Dialect) (c : Char) (piece : List Char) (rest : List (List Char))
    (bound : Nat) : woven d ((c :: piece) :: rest) bound = c :: woven d (piece :: rest) bound := by
  cases rest <;> rfl

/-- A filled template keeps what stands between its markers. -/
theorem filled_eq_woven (d : Dialect) (template : List Char) (bound : Nat) :
    filled d template bound = woven d (template.splitOn '?') bound := by
  induction template generalizing bound with
  | nil => rfl
  | cons c rest ih =>
    rw [filled, List.splitOn_cons_eq_if_modifyHead]
    cases pieces : rest.splitOn '?' with
    | nil => exact absurd pieces (List.splitOn_ne_nil _ _)
    | cons piece others =>
      by_cases marker : c = '?'
      · rw [if_pos marker, if_pos (beq_iff_eq.2 marker), ih, pieces]
        rfl
      · rw [if_neg marker, if_neg (by simpa using marker), ih, pieces, List.modifyHead_cons,
          woven_cons_cons]

variable {d : Dialect} {m : Char} (marked : d.MarkedBy m)

include marked

/-- Where the dialect's marker stands for values only, the placeholders of a template read in order exactly
when no digit stands right behind a `?`. -/
theorem numbers_filled_iff {template : List Char} (bare : m = '?' ∨ m ∉ template) {bound : Nat}
    (fits : bound + markers template ≤ maxNumber) :
    numbers [m] (filled d template bound) = (List.range' (bound + 1) (markers template)).map some ↔
      holdsToken ['?'] template = false := by
  induction template generalizing bound with
  | nil => exact ⟨fun _ => rfl, fun _ => numbers_nil [m]⟩
  | cons c rest ih =>
    have bare' : m = '?' ∨ m ∉ rest :=
      bare.imp_right fun absent inside => absent (List.mem_cons_of_mem c inside)
    rw [holdsToken_cons]
    by_cases marker : c = '?'
    · have count : markers (c :: rest) = markers rest + 1 := marker ▸ markers_cons_marker rest
      rw [count] at fits
      have later : numbers [m] (filled d rest (bound + 1)) =
          (List.range' (bound + 1 + 1) (markers rest)).map some ↔ holdsToken ['?'] rest = false :=
        ih bare' (by omega)
      rw [filled, if_pos marker, marked.placeholder_eq, String.toList_ofList, count, List.range'_succ,
        List.map_cons]
      -- A filled text begins with a digit where its template does, so `rest` decides what is read here.
      by_cases digit : startsWithDigit rest = false
      · have ended : startsWithDigit (filled d rest (bound + 1)) = false := by
          rw [startsWithDigit_filled marked, digit]
        rw [numbers_placeholder (by omega) ended, List.cons_inj_right, later, digit, Bool.and_false,
          Bool.false_or]
      · rw [Bool.not_eq_false] at digit
        have runs : startsWithDigit (filled d rest (bound + 1)) := by
          rw [startsWithDigit_filled marked, digit]
        have other := number?_toDigits_append (n := bound + 1) (by omega)
          (takeWhile_ne_nil_of_startsWithDigit runs)
        rw [numbers_placeholder_append, digit, decide_eq_true marker, Bool.and_true, Bool.true_or]
        exact iff_of_false (fun same => other (List.cons.inj same).1) (by decide)
    · have count := markers_cons_plain marker rest
      rw [count] at fits
      have plain : c ≠ m := by
        rintro rfl
        exact bare.elim marker fun absent => absent List.mem_cons_self
      rw [filled, if_neg marker, numbers_cons_plain (Or.inl plain), count, ih bare' fits,
        decide_eq_false marker, Bool.false_and, Bool.false_or]

/-- A template with a value for each `?` is written with the values in order and everything else kept. Its
placeholders number the values exactly when no digit stands right behind a `?`. -/
theorem template_numbers_iff (sql : RawSql) (bound : Nat) (bare : m = '?' ∨ m ∉ sql.text.toList)
    (count : markers sql.text.toList = sql.args.length) (fits : bound + sql.args.length ≤ maxNumber) :
    ∃ f, (template d sql).run bound = .ok f ∧ f.params = sql.args ∧
      f.text.toList = woven d (sql.text.toList.splitOn '?') bound ∧
      (d.numbersIn f.text = (List.range' (bound + 1) sql.args.length).map some ↔
        holdsToken ['?'] sql.text.toList = false) := by
  rw [run_template, if_pos count]
  refine ⟨_, rfl, rfl, ?_, ?_⟩
  · rw [String.toList_ofList, filled_eq_woven]
  · rw [marked.numbersIn_eq, String.toList_ofList, ← count]
    exact numbers_filled_iff marked bare (by omega)

omit marked

/-- The tenth value and the next one, once behind dollars and once behind question marks. -/
theorem template_numbers_tenth :
    (∃ f, (template .postgres ⟨"a > ? AND b = ?", [.int 1, .int 2]⟩).run 9 = .ok f ∧
      f.text.toList = "a > $10 AND b = $11".toList ∧
      Dialect.postgres.numbersIn f.text = [some 10, some 11]) ∧
    ∃ f, (template .sqlite ⟨"$1 > ? AND b = ?", [.int 1, .int 2]⟩).run 9 = .ok f ∧
      f.text.toList = "$1 > ?10 AND b = ?11".toList ∧
      Dialect.sqlite.numbersIn f.text = [some 10, some 11] := by
  constructor
  · obtain ⟨f, written, -, kept, ordered⟩ := template_numbers_iff Dialect.postgres_markedBy
      ⟨"a > ? AND b = ?", [.int 1, .int 2]⟩ 9 (Or.inr (by decide)) (by decide)
      (by decide)
    exact ⟨f, written, kept.trans (by decide +kernel), ordered.2 (by decide)⟩
  · obtain ⟨f, written, -, kept, ordered⟩ := template_numbers_iff Dialect.sqlite_markedBy
      ⟨"$1 > ? AND b = ?", [.int 1, .int 2]⟩ 9 (Or.inl rfl) (by decide) (by decide)
    exact ⟨f, written, kept.trans (by decide +kernel), ordered.2 (by decide)⟩

/-- With a digit behind it the first placeholder reads as the fifteenth. -/
theorem template_numbers_digit :
    ∃ f, (template .postgres ⟨"a = ?5", [.int 1]⟩).run 0 = .ok f ∧ f.text = "a = $15" ∧
      Dialect.postgres.numbersIn f.text = [some 15] := by
  refine ⟨⟨"a = $15", [.int 1]⟩, ?_, rfl, by decide +kernel⟩
  rw [run_template, if_pos (by decide)]
  exact congrArg (fun text => Except.ok (Fragment.mk text [.int 1])) (by decide +kernel)

end Emitter

end SqlSelect
