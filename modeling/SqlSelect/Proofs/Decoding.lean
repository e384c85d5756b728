import Mathlib.Data.List.TakeWhile
import SqlSelect.Text.Numeral
import SqlSelect.Value.Literal
set_option autoImplicit false

/-! Literals read back. The reader keeps the arrays that are still open on a stack, so what it makes of a literal
does not depend on where the literal stands. Floats are left out: a whole one is written as an integer is. -/
namespace SqlSelect.Value

/-- A value that is no float and holds none. -/
inductive FloatFree : Value → Prop where
  | null : FloatFree .null
  | bool (b : Bool) : FloatFree (.bool b)
  | int (n : Int64) : FloatFree (.int n)
  | text (s : String) : FloatFree (.text s)
  | blob (bytes : List UInt8) : FloatFree (.blob bytes)
  | array {items : List Value} (each : ∀ v ∈ items, FloatFree v) : FloatFree (.array items)

/-- The text up to a quote that stands alone, two quotes taken as one, and what is behind the quote. -/
def unquoted? : List Char → Option (List Char × List Char)
  | '\'' :: '\'' :: rest => (unquoted? rest).map fun (s, rest) => ('\'' :: s, rest)
  | '\'' :: rest => some ([], rest)
  | c :: rest => (unquoted? rest).map fun (s, rest) => (c :: s, rest)
  | [] => none

/-- The bytes up to a quote, two hexadecimal digits each, and what is behind the quote. -/
def bytes? : List Char → Option (List UInt8 × List Char)
  | '\'' :: rest => some ([], rest)
  | high :: low :: rest => do
    let high ← Text.hexValue? high
    let low ← Text.hexValue? low
    let (bytes, rest) ← bytes? rest
    return (UInt8.ofNat (high * 16 + low) :: bytes, rest)
  | _ => none

/-- The value that is not an array at the start of a text, and what is behind its literal. -/
def scalar? (text : List Char) : Option (Value × List Char) :=
  match Text.digits? text with
  | some (digits, rest) => some (.int (Int64.ofInt (Text.natural digits)), rest)
  | none =>
    match text with
    | 'N' :: 'U' :: 'L' :: 'L' :: rest => some (.null, rest)
    | 'T' :: 'R' :: 'U' :: 'E' :: rest => some (.bool true, rest)
    | 'F' :: 'A' :: 'L' :: 'S' :: 'E' :: rest => some (.bool false, rest)
    | '-' :: rest => (Text.digits? rest).map fun (digits, rest) =>
        (.int (Int64.ofInt (-Text.natural digits)), rest)
    | '\'' :: rest => (unquoted? rest).map fun (s, rest) => (.text (String.ofList s), rest)
    | 'X' :: '\'' :: rest => (bytes? rest).map fun (bytes, rest) => (.blob bytes, rest)
    | _ => none

theorem length_lt_of_unquoted? {text s rest : List Char} (read : unquoted? text = some (s, rest)) :
    rest.length < text.length := by
  fun_induction unquoted? text generalizing s with
  | case1 text ih =>
    obtain ⟨⟨s', rest'⟩, inside, same⟩ := Option.map_eq_some_iff.1 read
    cases same
    exact Nat.lt_succ_of_lt (Nat.lt_succ_of_lt (ih inside))
  | case2 text =>
    cases read
    exact Nat.lt_succ_self _
  | case3 c text _ _ ih =>
    obtain ⟨⟨s', rest'⟩, inside, same⟩ := Option.map_eq_some_iff.1 read
    cases same
    exact Nat.lt_succ_of_lt (ih inside)
  | case4 => cases read

theorem length_lt_of_bytes? {text rest : List Char} {bytes : List UInt8}
    (read : bytes? text = some (bytes, rest)) : rest.length < text.length := by
  fun_induction bytes? text generalizing bytes with
  | case1 text =>
    cases read
    exact Nat.lt_succ_self _
  | case2 high low text _ ih =>
    simp only [Option.bind_eq_bind, Option.bind_eq_some_iff, Option.pure_def, Option.some.injEq] at read
    obtain ⟨_, -, _, -, ⟨more, rest'⟩, inside, same⟩ := read
    cases same
    exact Nat.lt_succ_of_lt (Nat.lt_succ_of_lt (ih inside))
  | case3 => cases read

theorem length_lt_of_scalar? {text rest : List Char} {v : Value} (read : scalar? text = some (v, rest)) :
    rest.length < text.length := by
  unfold scalar? at read
  split at read
  · rename_i digits tail found
    cases read
    exact Text.length_lt_of_digits? found
  · split at read
    case h_1 | h_2 | h_3 =>
      cases read
      simp only [List.length_cons]
      omega
    case h_4 =>
      obtain ⟨⟨digits, tail⟩, found, same⟩ := Option.map_eq_some_iff.1 read
      cases same
      exact Nat.lt_succ_of_lt (Text.length_lt_of_digits? found)
    case h_5 =>
      obtain ⟨⟨s, tail⟩, found, same⟩ := Option.map_eq_some_iff.1 read
      cases same
      exact Nat.lt_succ_of_lt (length_lt_of_unquoted? found)
    case h_6 =>
      obtain ⟨⟨bytes, tail⟩, found, same⟩ := Option.map_eq_some_iff.1 read
      cases same
      exact Nat.lt_succ_of_lt (Nat.lt_succ_of_lt (length_lt_of_bytes? found))
    case h_7 => cases read

mutual

/-- Reads on where a value is due. Of every array that is still open, innermost first, the items so far are kept,
last first. -/
def readValue (frames : List (List Value)) (text : List Char) : Option (Value × List Char) :=
  match _ : scalar? text with
  | some (v, rest) => readBehind frames v rest
  | none =>
    match frames, text with
    | frames, 'A' :: 'R' :: 'R' :: 'A' :: 'Y' :: '[' :: rest => readValue ([] :: frames) rest
    | [] :: frames, ']' :: rest => readBehind frames (.array []) rest
    | _, _ => none
termination_by text.length
decreasing_by
  · exact length_lt_of_scalar? (by assumption)
  · simp only [List.length_cons]
    omega
  · exact Nat.lt_succ_self _

/-- Reads on behind a value, which is an item of the innermost array. -/
def readBehind (frames : List (List Value)) (v : Value) (text : List Char) : Option (Value × List Char) :=
  match frames, text with
  | [], rest => some (v, rest)
  | items :: frames, ',' :: ' ' :: rest => readValue ((v :: items) :: frames) rest
  | items :: frames, ']' :: rest => readBehind frames (.array (v :: items).reverse) rest
  | _, _ => none
termination_by text.length
decreasing_by
  · simp only [List.length_cons]
    omega
  · exact Nat.lt_succ_self _

end

/-- The value whose literal starts the text, and what is behind it. -/
def read? (text : List Char) : Option (Value × List Char) :=
  readValue [] text

/-- Behind a literal stands nothing, or what separates or ends the items of an array. -/
def Ends (rest : List Char) : Prop :=
  ∀ c ∈ rest.head?, c = ',' ∨ c = ']'

section Scalars

variable {rest : List Char}

theorem Ends.head?_ne_quote (ended : Ends rest) : rest.head? ≠ some '\'' := by
  intro quote
  rcases ended _ quote with same | same <;> cases same

theorem Ends.not_digit (ended : Ends rest) : ∀ c ∈ rest.head?, c.isDigit = false := by
  intro c first
  rcases ended c first with rfl | rfl <;> rfl

theorem doubleQuotes_cons (c : Char) (cs : List Char) :
    doubleQuotes (c :: cs) = (if c = '\'' then ['\'', '\''] else [c]) ++ doubleQuotes cs :=
  List.flatMap_cons

theorem unquoted?_doubleQuotes (cs : List Char) (ended : rest.head? ≠ some '\'') :
    unquoted? (doubleQuotes cs ++ '\'' :: rest) = some (cs, rest) := by
  induction cs with
  | nil =>
    have alone : unquoted? ('\'' :: rest) = some ([], rest) := by
      rw [unquoted?]
      rintro tail rfl
      exact ended rfl
    exact alone
  | cons c cs ih =>
    rw [doubleQuotes_cons]
    by_cases quote : c = '\''
    · have step : unquoted? ('\'' :: '\'' :: (doubleQuotes cs ++ '\'' :: rest)) = some ('\'' :: cs, rest) := by
        rw [unquoted?, ih]
        rfl
      rw [if_pos quote, quote]
      exact step
    · have step : unquoted? (c :: (doubleQuotes cs ++ '\'' :: rest)) = some (c :: cs, rest) := by
        rw [unquoted?, ih]
        · rfl
        · exact fun _ same _ => quote same
        · exact quote
      rw [if_neg quote]
      exact step

theorem hexValue?_upperHexDigit : ∀ n < 16, Text.hexValue? (upperHexDigit n) = some n := by
  decide

theorem upperHexDigit_ne_quote : ∀ n < 16, upperHexDigit n ≠ '\'' := by
  decide

theorem bytes?_flatMap (bytes : List UInt8) :
    bytes? (bytes.flatMap byteDigits ++ '\'' :: rest) = some (bytes, rest) := by
  induction bytes with
  | nil => rfl
  | cons b bytes ih =>
    have high : b.toNat / 16 < 16 := by
      have := b.toNat_lt
      omega
    have low : b.toNat % 16 < 16 := Nat.mod_lt _ (by decide)
    have whole : UInt8.ofNat (b.toNat / 16 * 16 + b.toNat % 16) = b := by
      rw [Nat.div_add_mod', UInt8.ofNat_toNat]
    have step : bytes? (upperHexDigit (b.toNat / 16) :: upperHexDigit (b.toNat % 16) ::
        (bytes.flatMap byteDigits ++ '\'' :: rest)) = some (b :: bytes, rest) := by
      rw [bytes?, hexValue?_upperHexDigit _ high, hexValue?_upperHexDigit _ low, ih]
      · change some (UInt8.ofNat _ :: bytes, rest) = _
        rw [whole]
      · exact upperHexDigit_ne_quote _ high
    exact step

theorem scalar?_of_digits {text digits : List Char} (found : Text.digits? text = some (digits, rest)) :
    scalar? text = some (.int (Int64.ofInt (Text.natural digits)), rest) := by
  unfold scalar?
  rw [found]

theorem scalar?_int (n : Int64) (ended : Ends rest) :
    scalar? ((literal (.int n)).toList ++ rest) = some (.int n, rest) := by
  have back : Int64.ofInt n.toInt = n := Int64.ofInt_toInt n
  cases value : n.toInt with
  | ofNat k =>
    have printed : (literal (.int n)).toList = Nat.toDigits 10 k := by
      rw [literal, value]
      exact Nat.toList_repr
    rw [value] at back
    rw [printed, scalar?_of_digits (Text.digits?_toDigits ended.not_digit k), Text.natural_toDigits,
      ← Int.ofNat_eq_natCast, back]
  | negSucc k =>
    have printed : (literal (.int n)).toList = '-' :: Nat.toDigits 10 (k + 1) := by
      rw [literal, value]
      exact (String.toList_append ..).trans (congrArg ('-' :: ·) Nat.toList_repr)
    rw [value] at back
    have minus : scalar? ('-' :: (Nat.toDigits 10 (k + 1) ++ rest)) =
        (Text.digits? (Nat.toDigits 10 (k + 1) ++ rest)).map fun (digits, rest) =>
          (.int (Int64.ofInt (-Text.natural digits)), rest) := rfl
    have negated : -((k + 1 : Nat) : Int) = Int.negSucc k := rfl
    rw [printed, List.cons_append, minus, Text.digits?_toDigits ended.not_digit (k + 1)]
    simp only [Option.map_some, Text.natural_toDigits, negated, back]

theorem scalar?_text (s : String) (ended : Ends rest) :
    scalar? ((literal (.text s)).toList ++ rest) = some (.text s, rest) := by
  have opened : scalar? ('\'' :: (doubleQuotes s.toList ++ '\'' :: rest)) =
      (unquoted? (doubleQuotes s.toList ++ '\'' :: rest)).map fun (s, rest) =>
        (.text (String.ofList s), rest) := rfl
  rw [literal, String.toList_ofList, List.cons_append, List.cons_append, List.append_assoc,
    List.singleton_append, opened, unquoted?_doubleQuotes _ ended.head?_ne_quote]
  simp only [Option.map_some, String.ofList_toList]

theorem scalar?_blob (bytes : List UInt8) :
    scalar? ((literal (.blob bytes)).toList ++ rest) = some (.blob bytes, rest) := by
  have opened : scalar? ('X' :: '\'' :: (bytes.flatMap byteDigits ++ '\'' :: rest)) =
      (bytes? (bytes.flatMap byteDigits ++ '\'' :: rest)).map fun (bytes, rest) =>
        (.blob bytes, rest) := rfl
  have written : (literal (.blob bytes)).toList ++ rest =
      'X' :: '\'' :: (bytes.flatMap byteDigits ++ '\'' :: rest) := by
    rw [literal, String.toList_ofList]
    simp
  rw [written, opened, bytes?_flatMap, Option.map_some]

end Scalars

section Arrays

variable {frames : List (List Value)} {items : List Value} {v : Value} {rest : List Char}

theorem readValue_of_scalar {text : List Char} (read : scalar? text = some (v, rest)) :
    readValue frames text = readBehind frames v rest := by
  rw [readValue]
  split
  · rename_i found
    rw [read] at found
    cases found
    rfl
  · rename_i found
    rw [read] at found
    cases found

theorem readValue_open (frames : List (List Value)) (rest : List Char) :
    readValue frames ("ARRAY[".toList ++ rest) = readValue ([] :: frames) rest := by
  have opened : scalar? ("ARRAY[".toList ++ rest) = none := rfl
  rw [readValue]
  split
  · rename_i found
    rw [opened] at found
    cases found
  · rfl

theorem readValue_close (frames : List (List Value)) (rest : List Char) :
    readValue ([] :: frames) (']' :: rest) = readBehind frames (.array []) rest := by
  have closed : scalar? (']' :: rest) = none := rfl
  rw [readValue]
  split
  · rename_i found
    rw [closed] at found
    cases found
  · rfl

/-- The literals of some values as they stand in an array. -/
def itemChars (items : List Value) : List Char :=
  [',', ' '].intercalate (items.map fun v => v.literal.toList)

theorem literal_array (items : List Value) :
    (literal (.array items)).toList = "ARRAY[".toList ++ (itemChars items ++ [']']) := by
  rw [literal, literals_eq_map, String.toList_append, String.toList_append, String.toList_intercalate,
    List.map_map, List.append_assoc]
  rfl

theorem itemChars_cons (v : Value) {items : List Value} (more : items ≠ []) :
    itemChars (v :: items) = v.literal.toList ++ ',' :: ' ' :: itemChars items := by
  cases items with
  | nil => exact absurd rfl more
  | cons w items =>
    rw [itemChars, List.map_cons, List.map_cons, List.intercalate_cons_cons, List.append_assoc]
    rfl

theorem itemChars_singleton (v : Value) : itemChars [v] = v.literal.toList :=
  List.intercalate_singleton

/-- The literal of the value is read as that value wherever it stands. -/
def ReadBack (v : Value) : Prop :=
  ∀ frames rest, Ends rest → readValue frames (v.literal.toList ++ rest) = readBehind frames v rest

theorem readValue_items (frames : List (List Value)) (before : List Value) {v : Value} {items : List Value}
    (each : ∀ w ∈ v :: items, w.ReadBack) (rest : List Char) :
    readValue (before :: frames) (itemChars (v :: items) ++ ']' :: rest) =
      readBehind frames (.array (before.reverse ++ v :: items)) rest := by
  -- An item that has been read goes onto the stack, so the induction is for every list of items before.
  obtain ⟨first, others⟩ := List.forall_mem_cons.1 each
  induction items generalizing before v with
  | nil =>
    have ended : Ends (']' :: rest) := fun c head => Or.inr (Option.some.inj head).symm
    rw [itemChars_singleton, first _ _ ended, readBehind, List.reverse_cons]
  | cons w items ih =>
    obtain ⟨second, later⟩ := List.forall_mem_cons.1 others
    have ended : Ends (',' :: ' ' :: (itemChars (w :: items) ++ ']' :: rest)) :=
      fun c head => Or.inl (Option.some.inj head).symm
    rw [itemChars_cons v (List.cons_ne_nil _ _), List.append_assoc, List.cons_append, List.cons_append,
      first _ _ ended, readBehind, ih (v :: before) others second later, List.reverse_cons,
      List.append_assoc, List.singleton_append]

theorem FloatFree.readBack {v : Value} (free : v.FloatFree) : v.ReadBack := by
  induction free with
  | null => exact fun _ _ _ => readValue_of_scalar rfl
  | bool b =>
    cases b with
    | false => exact fun _ _ _ => readValue_of_scalar rfl
    | true => exact fun _ _ _ => readValue_of_scalar rfl
  | int n => exact fun _ _ ended => readValue_of_scalar (scalar?_int n ended)
  | text s => exact fun _ _ ended => readValue_of_scalar (scalar?_text s ended)
  | blob bytes => exact fun _ _ _ => readValue_of_scalar (scalar?_blob bytes)
  | @array items free each =>
    intro frames rest ended
    rw [literal_array, List.append_assoc, List.append_assoc, List.singleton_append, readValue_open]
    cases items with
    | nil => exact readValue_close frames rest
    | cons v items => exact readValue_items frames [] each rest

end Arrays

theorem read?_literal {v : Value} (free : v.FloatFree) {rest : List Char} (ended : Ends rest) :
    read? (v.literal.toList ++ rest) = some (v, rest) := by
  rw [read?, free.readBack [] rest ended, readBehind]

/-- A literal is read as the value that it denotes and as far as it goes, whatever is in its texts. So no two
values have one literal. -/
theorem literal_read_back {v : Value} (free : v.FloatFree) :
    (∀ rest, Ends rest → read? (v.literal.toList ++ rest) = some (v, rest)) ∧
      ∀ w : Value, w.FloatFree → w.literal = v.literal → w = v := by
  refine ⟨fun rest ended => read?_literal free ended, fun w other same => ?_⟩
  have nothing : Ends [] := fun _ absent => nomatch absent
  have first := read?_literal free nothing
  have second := read?_literal other nothing
  rw [same, first] at second
  exact (congrArg Prod.fst (Option.some.inj second)).symm

example : literal (.float ⟨0x3FF0000000000000⟩) = literal (.int 1) := by decide +kernel

/-- An array with a text in it that looks like its end and another item. -/
def deceptiveItems : Value :=
  .array [.text "], NULL, ARRAY['", .array [], .blob [0, 0xFF], .array [.int (-5), .bool true]]

theorem floatFree_deceptiveItems : deceptiveItems.FloatFree := by
  have inner : FloatFree (.array [.int (-5), .bool true]) := .array (by
    simp only [List.forall_mem_cons]
    exact ⟨.int _, .bool _, fun _ absent => nomatch absent⟩)
  refine .array ?_
  simp only [List.forall_mem_cons]
  exact ⟨.text _, .array fun _ absent => (nomatch absent), .blob _, inner, fun _ absent => nomatch absent⟩

theorem literal_read_back_deceptiveItems :
    read? "ARRAY['], NULL, ARRAY[''', ARRAY[], X'00FF', ARRAY[-5, TRUE]], 'y']".toList =
        some (deceptiveItems, ", 'y']".toList) ∧
      ∀ w : Value, w.FloatFree →
        w.literal = "ARRAY['], NULL, ARRAY[''', ARRAY[], X'00FF', ARRAY[-5, TRUE]]" → w = deceptiveItems := by
  have spelled : deceptiveItems.literal =
      "ARRAY['], NULL, ARRAY[''', ARRAY[], X'00FF', ARRAY[-5, TRUE]]" := by decide +kernel
  have followed : "ARRAY['], NULL, ARRAY[''', ARRAY[], X'00FF', ARRAY[-5, TRUE]], 'y']".toList =
      "ARRAY['], NULL, ARRAY[''', ARRAY[], X'00FF', ARRAY[-5, TRUE]]".toList ++ ", 'y']".toList := by
    decide +kernel
  obtain ⟨read, only⟩ := literal_read_back floatFree_deceptiveItems
  rw [spelled] at read only
  have ended : Ends ", 'y']".toList := fun c head => Or.inl (Option.some.inj head).symm
  rw [followed]
  exact ⟨read _ ended, only⟩

end SqlSelect.Value
