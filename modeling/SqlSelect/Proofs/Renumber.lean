import Mathlib.Data.List.Basic
import Mathlib.Data.List.TakeWhile
import SqlSelect.Proofs.Token
set_option autoImplicit false

/-! Renumbering as a respelling of digits: it touches nothing but the digits of tokens, the result reads
as the text did with every number raised, and raising twice is raising once by the sum. -/
namespace SqlSelect.Placeholder

open Text (isDecimalDigit)

/-- A marker that cannot be taken for a part of the number after it. -/
def DigitFree (marker : List Char) : Prop :=
  ∀ c ∈ marker, isDecimalDigit c = false

instance (marker : List Char) : Decidable (DigitFree marker) :=
  List.decidableBAll (fun c => isDecimalDigit c = false) marker

/-- A piece with its digits written anew, if it has any. -/
def Piece.mapDigits (f : List Char → List Char) : Piece → Piece
  | .plain c => .plain c
  | .numbered digits => .numbered (f digits)

/-- A function that makes a number of a number. -/
def KeepsNumbers (f : List Char → List Char) : Prop :=
  ∀ digits, digits ≠ [] → (∀ c ∈ digits, isDecimalDigit c) →
    f digits ≠ [] ∧ ∀ c ∈ f digits, isDecimalDigit c

/-- The text with the digits of every token written anew. -/
def respell (marker : List Char) (f : List Char → List Char) (text : List Char) : List Char :=
  unscan marker ((scan marker text).map (Piece.mapDigits f))

/-- The digits of the number raised by the offset, the same digits if there is no such number. -/
def raise (offset : Nat) (digits : List Char) : List Char :=
  match number? digits with
  | some n => if n + offset ≤ maxNumber then Nat.toDigits 10 (n + offset) else digits
  | none => digits

theorem unscan_append (marker : List Char) (front back : List Piece) :
    unscan marker (front ++ back) = unscan marker front ++ unscan marker back :=
  List.flatMap_append

theorem respell_of_token {marker text digits rest : List Char} (f : List Char → List Char)
    (token : token? marker text = some (digits, rest)) :
    respell marker f text = marker ++ f digits ++ respell marker f rest := by
  rw [respell, scan_of_token token]
  rfl

theorem respell_of_no_token {marker rest : List Char} {c : Char} (f : List Char → List Char)
    (token : token? marker (c :: rest) = none) :
    respell marker f (c :: rest) = c :: respell marker f rest := by
  rw [respell, scan_of_no_token token]
  rfl

@[simp] theorem respell_nil (marker : List Char) (f : List Char → List Char) :
    respell marker f [] = [] := by
  rw [respell, scan_nil]
  rfl

/-- What stands in front of the first digit of a text. -/
def lead (text : List Char) : List Char :=
  text.takeWhile fun c => !isDecimalDigit c

theorem lead_append_of_digitFree {marker tail : List Char} (free : DigitFree marker)
    (digit : startsWithDigit tail) : lead (marker ++ tail) = marker := by
  unfold lead
  rw [List.takeWhile_append_of_pos (by simpa [DigitFree] using free)]
  cases tail with
  | nil => cases digit
  | cons c tail =>
    have decimal : isDecimalDigit c := digit
    simp [decimal]

/-- Whether a token starts a text depends only on the first digit and on what stands in front of it. -/
theorem token?_isSome_iff_lead {marker text : List Char} (free : DigitFree marker) :
    (token? marker text).isSome ↔ lead text = marker ∧ text.any isDecimalDigit := by
  rw [token?_isSome_iff]
  constructor
  · rintro ⟨tail, rfl, digit⟩
    refine ⟨lead_append_of_digitFree free digit, ?_⟩
    cases tail with
    | nil => cases digit
    | cons c tail =>
      have decimal : isDecimalDigit c := digit
      simp [decimal]
  · rintro ⟨rfl, found⟩
    refine ⟨text.dropWhile fun c => !isDecimalDigit c,
      List.takeWhile_append_dropWhile.symm, ?_⟩
    have stop := List.head?_dropWhile_not (fun c => !isDecimalDigit c) text
    unfold startsWithDigit
    cases head : (text.dropWhile fun c => !isDecimalDigit c).head? with
    | none =>
      rw [List.head?_eq_none_iff, List.dropWhile_eq_nil_iff] at head
      obtain ⟨c, inside, decimal⟩ := List.any_eq_true.1 found
      simpa [decimal] using head c inside
    | some c =>
      rw [head] at stop
      simpa using stop

theorem startsWithDigit_iff_lead {text : List Char} :
    startsWithDigit text ↔ lead text = [] ∧ text.any isDecimalDigit := by
  cases text with
  | nil => simp [lead]
  | cons c rest =>
    by_cases decimal : isDecimalDigit c <;> simp [lead, decimal]

section Respelling

variable {marker : List Char} {f : List Char → List Char}

/-- What decides where tokens start is the same in every spelling. -/
theorem lead_respell (free : DigitFree marker) (keeps : KeepsNumbers f) (text : List Char) :
    lead (respell marker f text) = lead text ∧
      (respell marker f text).any isDecimalDigit = text.any isDecimalDigit := by
  fun_induction scan marker text with
  | case1 text digits rest token ih =>
    obtain ⟨rfl, nonempty, decimal, -⟩ := token?_eq_some_iff.1 token
    obtain ⟨nonempty', decimal'⟩ := keeps digits nonempty decimal
    have digit : ∀ {ds tail : List Char}, ds ≠ [] → (∀ c ∈ ds, isDecimalDigit c) →
        startsWithDigit (ds ++ tail) ∧ (marker ++ ds ++ tail).any isDecimalDigit := by
      intro ds tail nonempty decimal
      cases ds with
      | nil => exact absurd rfl nonempty
      | cons d ds =>
        have first := decimal d List.mem_cons_self
        exact ⟨first, by simp [first]⟩
    rw [respell_of_token f token]
    constructor
    · rw [List.append_assoc, List.append_assoc,
        lead_append_of_digitFree free (digit nonempty' decimal').1,
        lead_append_of_digitFree free (digit nonempty decimal).1]
    · rw [(digit nonempty' decimal').2, (digit nonempty decimal).2]
  | case2 => simp
  | case3 c rest token ih =>
    rw [respell_of_no_token f token]
    constructor
    · by_cases decimal : isDecimalDigit c
      · simp [lead, decimal]
      · simpa [lead, decimal] using ih.1
    · rw [List.any_cons, List.any_cons, ih.2]

theorem startsWithDigit_respell (free : DigitFree marker) (keeps : KeepsNumbers f)
    (text : List Char) : startsWithDigit (respell marker f text) = startsWithDigit text := by
  obtain ⟨sameLead, sameDigits⟩ := lead_respell free keeps text
  rw [Bool.eq_iff_iff, startsWithDigit_iff_lead, startsWithDigit_iff_lead, sameLead, sameDigits]

/-- A text in a new spelling has the same tokens at the same places. -/
theorem scan_respell (free : DigitFree marker) (keeps : KeepsNumbers f) (text : List Char) :
    scan marker (respell marker f text) = (scan marker text).map (Piece.mapDigits f) := by
  fun_induction scan marker text with
  | case1 text digits rest token ih =>
    obtain ⟨-, nonempty, decimal, ended⟩ := token?_eq_some_iff.1 token
    obtain ⟨nonempty', decimal'⟩ := keeps digits nonempty decimal
    have ended' : startsWithDigit (respell marker f rest) = false := by
      rw [startsWithDigit_respell free keeps, ended]
    rw [respell_of_token f token,
      scan_of_token (token?_eq_some_iff.2 ⟨rfl, nonempty', decimal', ended'⟩), ih]
    rfl
  | case2 => simp
  | case3 c rest token ih =>
    have same := lead_respell free keeps (c :: rest)
    rw [respell_of_no_token f token] at same
    have token' : token? marker (c :: respell marker f rest) = none := by
      rw [← Option.isNone_iff_eq_none, ← Option.isSome_eq_false_iff] at token ⊢
      rw [← token, Bool.eq_iff_iff, token?_isSome_iff_lead free, token?_isSome_iff_lead free,
        same.1, same.2]
    rw [respell_of_no_token f token, scan_of_no_token token', ih]
    rfl

theorem respell_respell {g : List Char → List Char} (free : DigitFree marker)
    (keeps : KeepsNumbers f) (text : List Char) :
    respell marker g (respell marker f text) =
      unscan marker ((scan marker text).map fun p => (p.mapDigits f).mapDigits g) := by
  rw [respell, scan_respell free keeps, List.map_map]
  rfl

end Respelling

theorem keepsNumbers_raise (offset : Nat) : KeepsNumbers (raise offset) := by
  intro digits nonempty decimal
  have printed (n : Nat) : Nat.toDigits 10 n ≠ [] ∧ ∀ c ∈ Nat.toDigits 10 n, isDecimalDigit c :=
    ⟨Nat.toDigits_ne_nil, fun c inside => Text.isDecimalDigit_of_isDigit
      (Nat.isDigit_of_mem_toDigits (by decide) (by decide) inside)⟩
  unfold raise
  cases number? digits with
  | none => exact ⟨nonempty, decimal⟩
  | some n =>
    by_cases fits : n + offset ≤ maxNumber
    · simpa only [fits, ↓reduceIte] using printed (n + offset)
    · simpa only [fits, ↓reduceIte] using ⟨nonempty, decimal⟩

theorem shiftPiece_eq (marker : List Char) (offset : Nat) (p : Piece) :
    shiftPiece marker marker offset p = unscan marker [p.mapDigits (raise offset)] := by
  cases p with
  | plain c => rfl
  | numbered digits =>
    cases read : number? digits with
    | none => simp [shiftPiece, unscan, Piece.mapDigits, raise, read]
    | some n =>
      by_cases fits : n + offset ≤ maxNumber <;>
        simp [shiftPiece, unscan, Piece.mapDigits, raise, read, fits, write]

theorem shiftChars_eq_respell (marker : List Char) {offset : Nat} (positive : offset ≠ 0)
    (text : List Char) :
    shiftChars marker marker offset text = respell marker (raise offset) text := by
  rw [shiftChars, if_neg positive, respell]
  induction scan marker text with
  | nil => rfl
  | cons p pieces ih =>
    rw [List.flatMap_cons, ih, shiftPiece_eq, List.map_cons, ← unscan_append, List.singleton_append]

@[simp] theorem shiftChars_zero (marker text : List Char) :
    shiftChars marker marker 0 text = text := rfl

theorem number?_raise {offset n : Nat} {digits : List Char} (read : number? digits = some n)
    (fits : n + offset ≤ maxNumber) : number? (raise offset digits) = some (n + offset) := by
  simp only [raise, read, fits, ↓reduceIte]
  exact number?_toDigits fits

theorem raise_of_unread {offset : Nat} {digits : List Char} (read : number? digits = none) :
    raise offset digits = digits := by
  simp only [raise, read]

theorem raise_raise {a b : Nat} {digits : List Char}
    (fits : ∀ n, number? digits = some n → n + a + b ≤ maxNumber) :
    raise b (raise a digits) = raise (a + b) digits := by
  cases read : number? digits with
  | none => rw [raise_of_unread read, raise_of_unread read, raise_of_unread read]
  | some n =>
    have first : n + a ≤ maxNumber := by have := fits n read; omega
    have second : n + (a + b) ≤ maxNumber := by have := fits n read; omega
    have again := number?_raise read first
    simp only [raise, read, first, ↓reduceIte] at again
    simp only [raise, read, first, second, again, ↓reduceIte, Nat.add_assoc]

theorem mem_numbers_iff {marker text : List Char} {r : Option Nat} :
    r ∈ numbers marker text ↔ ∃ digits, .numbered digits ∈ scan marker text ∧
      number? digits = r := by
  unfold numbers
  rw [List.mem_filterMap]
  constructor
  · rintro ⟨p, inside, read⟩
    cases p with
    | plain c => cases read
    | numbered digits => exact ⟨digits, inside, by simpa [Piece.reading?] using read⟩
  · rintro ⟨digits, inside, rfl⟩
    exact ⟨_, inside, rfl⟩

/-- Raising by one offset and then by another is raising by their sum, as long as every number stays
in range. -/
theorem shiftChars_shiftChars {marker : List Char} (free : DigitFree marker) {a b : Nat}
    {text : List Char} (fits : ∀ n, some n ∈ numbers marker text → n + a + b ≤ maxNumber) :
    shiftChars marker marker b (shiftChars marker marker a text) =
      shiftChars marker marker (a + b) text := by
  by_cases noFirst : a = 0
  · rw [noFirst, shiftChars_zero, Nat.zero_add]
  by_cases noSecond : b = 0
  · rw [noSecond, shiftChars_zero, Nat.add_zero]
  rw [shiftChars_eq_respell marker noFirst, shiftChars_eq_respell marker noSecond,
    shiftChars_eq_respell marker (by omega : a + b ≠ 0),
    respell_respell free (keepsNumbers_raise a), respell]
  congr 1
  apply List.map_congr_left
  intro p inside
  cases p with
  | plain c => rfl
  | numbered digits =>
    simp only [Piece.mapDigits, Piece.numbered.injEq]
    exact raise_raise fun n read => fits n (mem_numbers_iff.2 ⟨digits, inside, read⟩)

/-- Raising the numbers behind a marker twice is raising them once by the sum. -/
theorem shift_shift {marker : String} (free : DigitFree marker.toList) {a b : Nat} {sql : String}
    (fits : ∀ n, some n ∈ numbers marker.toList sql.toList → n + a + b ≤ maxNumber) :
    shift marker marker b (shift marker marker a sql) = shift marker marker (a + b) sql := by
  unfold shift
  rw [String.toList_ofList, shiftChars_shiftChars free fits]

/-- A marker of two characters and an empty one. Numbers get longer, lose their zeros, or stay unread. -/
theorem shift_shift_dollars :
    shift "$$" "$$" 90 (shift "$$" "$$" 1 "$$9 $$007 $$$1 $$٣ $$99999999999999999999") =
        "$$100 $$98 $$$92 $$٣ $$99999999999999999999" ∧
      shift "" "" 90 (shift "" "" 1 "t9.c010") = "t100.c101" := by
  have dollars : ∀ n, some n ∈ numbers "$$".toList
      "$$9 $$007 $$$1 $$٣ $$99999999999999999999".toList → n + 1 + 90 ≤ maxNumber := by
    have read : numbers "$$".toList "$$9 $$007 $$$1 $$٣ $$99999999999999999999".toList =
        [some 9, some 7, some 1, none, none] := by decide +kernel
    rw [read]
    simp [maxNumber]
  have bare : ∀ n, some n ∈ numbers "".toList "t9.c010".toList → n + 1 + 90 ≤ maxNumber := by
    have read : numbers "".toList "t9.c010".toList = [some 9, some 10] := by decide +kernel
    rw [read]
    simp [maxNumber]
  have free : DigitFree "$$".toList := by
    intro c inside
    have dollar : c = '$' := by simpa using inside
    rw [dollar]
    decide
  have free' : DigitFree "".toList := by
    intro c absent
    cases absent
  exact ⟨(shift_shift free dollars).trans (by decide +kernel),
    (shift_shift free' bare).trans (by decide +kernel)⟩

/-- After the shift every token reads its number raised by the offset. -/
theorem numbers_shiftChars {marker : List Char} (free : DigitFree marker) {offset : Nat}
    {text : List Char} (fits : ∀ n, some n ∈ numbers marker text → n + offset ≤ maxNumber) :
    numbers marker (shiftChars marker marker offset text) =
      (numbers marker text).map (Option.map (· + offset)) := by
  by_cases none : offset = 0
  · subst none
    rw [shiftChars_zero]
    exact (List.map_id'' (fun r => by cases r <;> rfl) _).symm
  · rw [shiftChars_eq_respell marker none, numbers, scan_respell free (keepsNumbers_raise offset)]
    rw [List.filterMap_map, numbers, List.map_filterMap]
    apply List.filterMap_congr
    intro p inside
    cases p with
    | plain c => rfl
    | numbered digits =>
      cases read : number? digits with
      | none => simp [Piece.mapDigits, Piece.reading?, raise_of_unread read, read]
      | some n =>
        have bound := fits n (mem_numbers_iff.2 ⟨digits, inside, read⟩)
        simp [Piece.mapDigits, Piece.reading?, number?_raise read bound, read]

theorem numbers_of_not_holdsToken {marker text : List Char} (h : holdsToken marker text = false) :
    numbers marker text = [] := by
  rw [numbers, scan_of_not_holdsToken h, List.filterMap_map]
  exact List.filterMap_eq_nil_iff.2 fun c _ => rfl

@[simp] theorem numbers_nil (marker : List Char) : numbers marker [] = [] :=
  numbers_of_not_holdsToken rfl

theorem shiftChars_of_not_holdsToken {marker text : List Char} (offset : Nat)
    (h : holdsToken marker text = false) : shiftChars marker marker offset text = text := by
  by_cases none : offset = 0
  · rw [none, shiftChars_zero]
  · rw [shiftChars_eq_respell marker none, respell, scan_of_not_holdsToken h, List.map_map]
    have same := unscan_scan marker text
    rw [scan_of_not_holdsToken h] at same
    exact same

section OneCharacter

variable {m : Char} {s t : List Char}

theorem digitFree_singleton (notDigit : isDecimalDigit m = false) : DigitFree [m] :=
  fun _ inside => List.mem_singleton.1 inside ▸ notDigit

theorem numbers_cons_plain {c : Char} (apart : c ≠ m ∨ startsWithDigit t = false) :
    numbers [m] (c :: t) = numbers [m] t := by
  rw [numbers, scan_cons_plain apart]
  rfl

theorem shiftChars_cons_plain {c : Char} (offset : Nat)
    (apart : c ≠ m ∨ startsWithDigit t = false) :
    shiftChars [m] [m] offset (c :: t) = c :: shiftChars [m] [m] offset t := by
  by_cases none : offset = 0
  · rw [none, shiftChars_zero, shiftChars_zero]
  · rw [shiftChars_eq_respell _ none, shiftChars_eq_respell _ none, respell, scan_cons_plain apart]
    rfl

theorem scan_placeholder (n : Nat) (ended : startsWithDigit t = false) :
    scan [m] (m :: Nat.toDigits 10 n ++ t) = .numbered (Nat.toDigits 10 n) :: scan [m] t :=
  scan_written Nat.toDigits_ne_nil
    (fun _ inside => Text.isDecimalDigit_of_isDigit
      (Nat.isDigit_of_mem_toDigits (by decide) (by decide) inside)) ended

theorem numbers_placeholder {n : Nat} (fits : n ≤ maxNumber) (ended : startsWithDigit t = false) :
    numbers [m] (m :: Nat.toDigits 10 n ++ t) = some n :: numbers [m] t := by
  rw [numbers, scan_placeholder n ended, List.filterMap_cons_some (b := some n)]
  · rfl
  · rw [Piece.reading?, number?_toDigits fits]

theorem shiftChars_placeholder {n offset : Nat} (fits : n + offset ≤ maxNumber)
    (ended : startsWithDigit t = false) :
    shiftChars [m] [m] offset (m :: Nat.toDigits 10 n ++ t) =
      m :: Nat.toDigits 10 (n + offset) ++ shiftChars [m] [m] offset t := by
  by_cases none : offset = 0
  · subst none
    rw [shiftChars_zero, shiftChars_zero, Nat.add_zero]
  · have read := number?_toDigits (n := n) (by omega)
    rw [shiftChars_eq_respell _ none, shiftChars_eq_respell _ none, respell,
      scan_placeholder n ended, List.map_cons, Piece.mapDigits, raise, read]
    simp only [fits, ↓reduceIte]
    rfl

theorem numbers_append
    (apart : startsWithDigit t = false ∨ ∀ c ∈ s.getLast?, c ≠ m ∧ isDecimalDigit c = false) :
    numbers [m] (s ++ t) = numbers [m] s ++ numbers [m] t := by
  rw [numbers, scan_append apart, List.filterMap_append]
  rfl

theorem shiftChars_append (offset : Nat)
    (apart : startsWithDigit t = false ∨ ∀ c ∈ s.getLast?, c ≠ m ∧ isDecimalDigit c = false) :
    shiftChars [m] [m] offset (s ++ t) =
      shiftChars [m] [m] offset s ++ shiftChars [m] [m] offset t := by
  by_cases none : offset = 0
  · rw [none, shiftChars_zero, shiftChars_zero, shiftChars_zero]
  · rw [shiftChars_eq_respell _ none, shiftChars_eq_respell _ none, shiftChars_eq_respell _ none,
      respell, scan_append apart, List.map_append, unscan_append]
    rfl

end OneCharacter

end SqlSelect.Placeholder
