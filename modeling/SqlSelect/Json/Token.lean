import SqlSelect.Json.Basic
set_option autoImplicit false

/-! The tokens of a JSON text: punctuation, and the values that hold no others. -/
namespace SqlSelect.Json

export Text (hexValue?)

inductive Token where
  | openArray
  | closeArray
  | openObject
  | closeObject
  | comma
  | colon
  /-- A null, truth value, number or string. -/
  | scalar (value : Json)

/-- The four characters that may stand between tokens. -/
def isSpace (c : Char) : Bool :=
  c = ' ' || c = '\t' || c = '\n' || c = '\r'

/-- The UTF-16 unit of an escape. -/
def unit? (a b c d : Char) : Option Nat := do
  let a ← hexValue? a
  let b ← hexValue? b
  let c ← hexValue? c
  let d ← hexValue? d
  return ((a * 16 + b) * 16 + c) * 16 + d

def isHighSurrogate (n : Nat) : Bool := 0xD800 ≤ n && n ≤ 0xDBFF

def isLowSurrogate (n : Nat) : Bool := 0xDC00 ≤ n && n ≤ 0xDFFF

def surrogatePair (high low : Nat) : Char :=
  Char.ofNat (0x10000 + (high - 0xD800) * 0x400 + (low - 0xDC00))

/-- The character that a one-letter escape stands for. -/
def escaped? : Char → Option Char
  | '"' => some '"'
  | '\\' => some '\\'
  | '/' => some '/'
  | 'b' => some '\x08'
  | 'f' => some '\x0c'
  | 'n' => some '\n'
  | 'r' => some '\r'
  | 't' => some '\t'
  | _ => none

/-- The character at the start of a string's inside, an escape taken as one, and the text after it.
Control characters and surrogates that are not in a pair are refused. -/
def character? : List Char → Option (Char × List Char)
  | '\\' :: 'u' :: a :: b :: c :: d :: rest => do
    let high ← unit? a b c d
    if isLowSurrogate high then none
    else if isHighSurrogate high then
      match rest with
      | '\\' :: 'u' :: a :: b :: c :: d :: rest => do
        let low ← unit? a b c d
        if isLowSurrogate low then some (surrogatePair high low, rest) else none
      | _ => none
    else some (Char.ofNat high, rest)
  | '\\' :: c :: rest => (escaped? c).map fun c => (c, rest)
  | c :: rest => if c = '\\' || c < ' ' then none else some (c, rest)
  | [] => none

theorem length_lt_of_character? {cs rest : List Char} {c : Char}
    (h : character? cs = some (c, rest)) : rest.length < cs.length := by
  unfold character? at h
  split at h
  · simp only [Option.bind_eq_bind, Option.bind_eq_some_iff] at h
    obtain ⟨high, -, h⟩ := h
    split at h
    · cases h
    · split at h
      · split at h
        · simp only [Option.bind_eq_some_iff] at h
          obtain ⟨low, -, h⟩ := h
          split at h
          · simp only [Option.some.injEq, Prod.mk.injEq] at h
            simp only [← h.2, List.length_cons]
            omega
          · cases h
        · cases h
      · simp only [Option.some.injEq, Prod.mk.injEq] at h
        simp only [← h.2, List.length_cons]
        omega
  · simp only [Option.map_eq_some_iff, Prod.mk.injEq] at h
    obtain ⟨_, -, -, rfl⟩ := h
    simp only [List.length_cons]
    omega
  · split at h
    · cases h
    · cases h
      simp
  · cases h

/-- The inside of a string up to its closing quote, and the text after the quote. -/
def stringBody? (cs : List Char) : Option (List Char × List Char) :=
  match cs with
  | '"' :: rest => some ([], rest)
  | cs =>
    match _ : character? cs with
    | some (c, rest) => (stringBody? rest).map fun (body, rest) => (c :: body, rest)
    | none => none
termination_by cs.length
decreasing_by exact length_lt_of_character? (by assumption)

theorem length_lt_of_stringBody? {cs body rest : List Char}
    (h : stringBody? cs = some (body, rest)) : rest.length < cs.length := by
  fun_induction stringBody? cs generalizing body with
  | case1 => simp_all
  | case2 cs _ c tail hc ih =>
    simp only [Option.map_eq_some_iff, Prod.mk.injEq] at h
    obtain ⟨⟨inside, after⟩, hbody, -, rfl⟩ := h
    have := ih hbody
    have := length_lt_of_character? hc
    omega
  | case3 => simp at h

def punctuation? : Char → Option Token
  | '[' => some .openArray
  | ']' => some .closeArray
  | '\x7b' => some .openObject
  | '\x7d' => some .closeObject
  | ',' => some .comma
  | ':' => some .colon
  | _ => none

/-- The characters that number literals and the three words are made of. -/
def isBare (c : Char) : Bool :=
  c.isAlphanum || c = '-' || c = '+' || c = '.'

/-- A run of such characters read as a value. -/
def bareValue? (cs : List Char) : Option Json :=
  if cs = "null".toList then some .null
  else if cs = "true".toList then some (.bool true)
  else if cs = "false".toList then some (.bool false)
  else (NumberLiteral.ofText? cs).bind NumberLiteral.value?

/-- The token at the start of a text that does not start with space, and the text after it. -/
def token? : List Char → Option (Token × List Char)
  | [] => none
  | c :: rest =>
    match punctuation? c with
    | some token => some (token, rest)
    | none =>
      if c = '"' then
        (stringBody? rest).map fun (body, rest) => (.scalar (.string (String.ofList body)), rest)
      else if isBare c then
        (bareValue? (c :: rest.takeWhile isBare)).map fun v => (.scalar v, rest.dropWhile isBare)
      else none

theorem length_lt_of_token? {cs rest : List Char} {t : Token} (h : token? cs = some (t, rest)) :
    rest.length < cs.length := by
  cases cs with
  | nil => simp [token?] at h
  | cons c tail =>
    simp only [token?] at h
    split at h
    · cases h
      simp
    · split at h
      · simp only [Option.map_eq_some_iff, Prod.mk.injEq] at h
        obtain ⟨⟨body, after⟩, hbody, -, rfl⟩ := h
        have := length_lt_of_stringBody? hbody
        simp only [List.length_cons]
        omega
      · split at h
        · simp only [Option.map_eq_some_iff, Prod.mk.injEq] at h
          obtain ⟨_, -, -, rfl⟩ := h
          have := (List.dropWhile_sublist isBare (l := tail)).length_le
          simp only [List.length_cons]
          omega
        · cases h

/-- The tokens of a text, unless some stretch of it is none. -/
def tokens? (cs : List Char) : Option (List Token) :=
  match cs with
  | [] => some []
  | c :: rest =>
    if isSpace c then tokens? rest
    else
      match _ : token? (c :: rest) with
      | some (t, rest) => (tokens? rest).map (t :: ·)
      | none => none
termination_by cs.length
decreasing_by
  · simp
  · exact length_lt_of_token? (by assumption)

end SqlSelect.Json
