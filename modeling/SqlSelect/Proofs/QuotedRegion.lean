import SqlSelect.Proofs.Quoting
import SqlSelect.Proofs.Renumber
set_option autoImplicit false

/-! The regions between quotes in a text. Renumbering acts on each of them alone: no placeholder reaches
across a quote, and a doubled quote is never a part of one. -/
namespace SqlSelect

namespace Text

/-- Where a reader stands: outside of every region, in one, or behind a quote that closes the region
unless it is the first of two. -/
inductive Stand where
  | outside
  | inside
  | closing

/-- More characters in front of the first region. -/
def extend (front : List Char) : List (List Char) → List (List Char)
  | [] => []
  | region :: more => (front ++ region) :: more

/-- The regions from where the reader stands on, the one that it is in among them. -/
def regionsFrom (quote : Char) : Stand → List Char → Option (List (List Char))
  | .outside, [] => some []
  | .inside, [] => none
  | .closing, [] => some [[]]
  | .outside, c :: rest =>
    if c = quote then regionsFrom quote .inside rest else regionsFrom quote .outside rest
  | .inside, c :: rest =>
    if c = quote then regionsFrom quote .closing rest
    else (regionsFrom quote .inside rest).map (extend [c])
  | .closing, c :: rest =>
    if c = quote then (regionsFrom quote .inside rest).map (extend [quote])
    else (regionsFrom quote .outside rest).map ([] :: ·)

/-- The regions between quotes from left to right, with doubled quotes made single. There are none to
speak of when the last one is left open. -/
def regions (quote : Char) (text : List Char) : Option (List (List Char)) :=
  regionsFrom quote .outside text

section Reading

variable {quote : Char}

theorem extend_ne_nil {front : List Char} {found : List (List Char)} (some' : found ≠ []) :
    extend front found ≠ [] := by
  cases found with
  | nil => exact absurd rfl some'
  | cons region more => exact List.cons_ne_nil _ _

theorem extend_append {front : List Char} {found : List (List Char)} (more : List (List Char))
    (some' : found ≠ []) : extend front (found ++ more) = extend front found ++ more := by
  cases found with
  | nil => exact absurd rfl some'
  | cons region rest => rfl

theorem extend_extend (front back : List Char) (found : List (List Char)) :
    extend front (extend back found) = extend (front ++ back) found := by
  cases found with
  | nil => rfl
  | cons region more => rw [extend, extend, extend, List.append_assoc]

/-- A reader in a region, or at its end, finds at least that one. -/
theorem regionsFrom_ne_nil {stand : Stand} (begun : stand ≠ .outside) {text : List Char}
    {found : List (List Char)} (read : regionsFrom quote stand text = some found) : found ≠ [] := by
  induction text generalizing stand found with
  | nil =>
    cases stand with
    | outside => exact absurd rfl begun
    | inside => cases read
    | closing =>
      cases read
      exact List.cons_ne_nil _ _
  | cons c rest ih =>
    cases stand with
    | outside => exact absurd rfl begun
    | inside =>
      rw [regionsFrom] at read
      split at read
      · exact ih (by simp) read
      · obtain ⟨tail, readTail, rfl⟩ := Option.map_eq_some_iff.1 read
        exact extend_ne_nil (ih (by simp) readTail)
    | closing =>
      rw [regionsFrom] at read
      split at read
      · obtain ⟨tail, readTail, rfl⟩ := Option.map_eq_some_iff.1 read
        exact extend_ne_nil (ih (by simp) readTail)
      · obtain ⟨tail, -, rfl⟩ := Option.map_eq_some_iff.1 read
        exact List.cons_ne_nil _ _

/-- Two texts are read one after the other, unless quotes meet between them. -/
theorem regionsFrom_append {stand : Stand} {s t : List Char} {found : List (List Char)}
    (read : regionsFrom quote stand s = some found)
    (apart : t.head? ≠ some quote ∨ s.getLast? ≠ some quote ∧ (s = [] → stand ≠ .closing)) :
    regionsFrom quote stand (s ++ t) = (regionsFrom quote .outside t).map (found ++ ·) := by
  induction s generalizing stand found with
  | nil =>
    cases stand with
    | outside =>
      cases read
      exact (Option.map_id' ..).symm
    | inside => cases read
    | closing =>
      cases read
      have other : t.head? ≠ some quote := apart.resolve_right fun h => h.2 rfl rfl
      cases t with
      | nil => rfl
      | cons c t =>
        have plain : c ≠ quote := fun same => other (congrArg some same)
        simp [regionsFrom, plain]
  | cons c s ih =>
    -- A reader comes to stand behind a quote only by reading one, so the seam is safe in every state.
    have next : ∀ {stand' : Stand}, (c ≠ quote → stand' ≠ .closing) →
        t.head? ≠ some quote ∨ s.getLast? ≠ some quote ∧ (s = [] → stand' ≠ .closing) := by
      intro stand' step
      refine apart.imp_right fun last => ?_
      cases s with
      | nil => exact ⟨by simp, fun _ => step fun same => last.1 (congrArg some same)⟩
      | cons c' s => exact ⟨by simpa using last.1, fun absent => nomatch absent⟩
    have grown : ∀ {front : List Char} {stand' : Stand}, stand' ≠ .outside →
        (c ≠ quote → stand' ≠ .closing) →
        (regionsFrom quote stand' s).map (extend front) = some found →
        (regionsFrom quote stand' (s ++ t)).map (extend front) =
          (regionsFrom quote .outside t).map (found ++ ·) := by
      intro front stand' begun step read
      obtain ⟨tail, readTail, rfl⟩ := Option.map_eq_some_iff.1 read
      rw [ih readTail (next step), Option.map_map]
      congr 1
      funext more
      exact extend_append more (regionsFrom_ne_nil begun readTail)
    rw [List.cons_append]
    by_cases same : c = quote
    · cases stand with
      | outside =>
        rw [regionsFrom, if_pos same] at read ⊢
        exact ih read (next (by simp))
      | inside =>
        rw [regionsFrom, if_pos same] at read ⊢
        exact ih read (next fun other => absurd same other)
      | closing =>
        rw [regionsFrom, if_pos same] at read ⊢
        exact grown (by simp) (by simp) read
    · cases stand with
      | outside =>
        rw [regionsFrom, if_neg same] at read ⊢
        exact ih read (next (by simp))
      | inside =>
        rw [regionsFrom, if_neg same] at read ⊢
        exact grown (by simp) (by simp) read
      | closing =>
        rw [regionsFrom, if_neg same] at read ⊢
        obtain ⟨tail, readTail, rfl⟩ := Option.map_eq_some_iff.1 read
        rw [ih readTail (next (by simp)), Option.map_map]
        rfl

theorem regions_append {s t : List Char} {first second : List (List Char)}
    (readFirst : regions quote s = some first) (readSecond : regions quote t = some second)
    (apart : s.getLast? ≠ some quote ∨ t.head? ≠ some quote) :
    regions quote (s ++ t) = some (first ++ second) := by
  have apart' : t.head? ≠ some quote ∨
      s.getLast? ≠ some quote ∧ (s = [] → Stand.outside ≠ .closing) :=
    apart.symm.imp_right fun last => ⟨last, by simp⟩
  rw [regions, regionsFrom_append readFirst apart']
  exact congrArg (Option.map (first ++ ·)) readSecond

theorem regions_of_not_mem {text : List Char} (free : quote ∉ text) : regions quote text = some [] := by
  induction text with
  | nil => rfl
  | cons c rest ih =>
    rw [List.mem_cons, not_or] at free
    rw [regions, regionsFrom, if_neg (Ne.symm free.1)]
    exact ih free.2

end Reading

section Renumbering

open Placeholder

variable {quote m : Char} {f : List Char → List Char}

theorem extend_eq_cons {front region : List Char} {found more : List (List Char)}
    (grown : extend front found = region :: more) :
    ∃ rest, found = rest :: more ∧ region = front ++ rest := by
  cases found with
  | nil => cases grown
  | cons rest more' =>
    cases grown
    exact ⟨rest, rfl, rfl⟩

/-- A change of the regions goes with more text in front of the first if it does so for that one. -/
theorem map_extend {g : List Char → List Char} {front front' : List Char}
    {found : Option (List (List Char))}
    (first : ∀ region more, found = some (region :: more) → g (front ++ region) = front' ++ g region) :
    (found.map (List.map g)).map (extend front') = (found.map (extend front)).map (List.map g) := by
  cases found with
  | none => rfl
  | some found =>
    cases found with
    | nil => rfl
    | cons region more => simp [extend, first region more rfl]

/-- What a reader makes of text without quotes in front of the rest. -/
theorem regionsFrom_plain {front : List Char} (free : quote ∉ front) (written : front ≠ [])
    (rest : List Char) :
    regionsFrom quote .outside (front ++ rest) = regionsFrom quote .outside rest ∧
      regionsFrom quote .inside (front ++ rest) =
        (regionsFrom quote .inside rest).map (extend front) ∧
      regionsFrom quote .closing (front ++ rest) =
        (regionsFrom quote .outside rest).map ([] :: ·) := by
  induction front with
  | nil => exact absurd rfl written
  | cons c front ih =>
    rw [List.mem_cons, not_or] at free
    have other : c ≠ quote := Ne.symm free.1
    rw [List.cons_append, regionsFrom, if_neg other, regionsFrom, if_neg other, regionsFrom,
      if_neg other]
    cases front with
    | nil => exact ⟨rfl, rfl, rfl⟩
    | cons c' front =>
      obtain ⟨outside, inside, -⟩ := ih free.2 (List.cons_ne_nil _ _)
      rw [outside, inside, Option.map_map]
      refine ⟨rfl, ?_, rfl⟩
      congr 1
      funext found
      exact extend_extend [c] (c' :: front) found

variable (other : quote ≠ m) (plain : isDecimalDigit quote = false)

include plain in
theorem startsWithDigit_region {text region : List Char} {more : List (List Char)}
    (read : regionsFrom quote .inside text = some (region :: more)) :
    startsWithDigit region = startsWithDigit text := by
  cases text with
  | nil => cases read
  | cons c rest =>
    rw [startsWithDigit_cons]
    by_cases same : c = quote
    · rw [same, plain]
      rw [regionsFrom, if_pos same] at read
      cases rest with
      | nil =>
        cases read
        rfl
      | cons c' rest =>
        by_cases doubled : c' = quote
        · rw [regionsFrom, if_pos doubled] at read
          obtain ⟨found, -, grown⟩ := Option.map_eq_some_iff.1 read
          obtain ⟨tail, -, rfl⟩ := extend_eq_cons grown
          exact plain
        · rw [regionsFrom, if_neg doubled] at read
          obtain ⟨found, -, grown⟩ := Option.map_eq_some_iff.1 read
          cases grown
          rfl
    · rw [regionsFrom, if_neg same] at read
      obtain ⟨found, -, grown⟩ := Option.map_eq_some_iff.1 read
      obtain ⟨tail, -, rfl⟩ := extend_eq_cons grown
      rfl

include other plain in
theorem quote_not_mem_token {digits : List Char} (decimal : ∀ c ∈ digits, isDecimalDigit c) :
    quote ∉ [m] ++ digits := by
  intro inside
  rcases List.mem_append.1 inside with same | digit
  · exact other (List.mem_singleton.1 same)
  · rw [decimal quote digit] at plain
    cases plain

include other plain in
theorem regionsFrom_respell (keeps : KeepsNumbers f) (stand : Stand) (text : List Char) :
    regionsFrom quote stand (respell [m] f text) =
      (regionsFrom quote stand text).map (List.map (respell [m] f)) := by
  fun_induction scan [m] text generalizing stand with
  | case1 text digits rest token ih =>
    obtain ⟨rfl, nonempty, decimal, ended⟩ := token?_eq_some_iff.1 token
    obtain ⟨nonempty', decimal'⟩ := keeps digits nonempty decimal
    obtain ⟨outside, inside, closing⟩ :=
      regionsFrom_plain (quote_not_mem_token other plain decimal) (by simp) rest
    obtain ⟨outside', inside', closing'⟩ :=
      regionsFrom_plain (quote_not_mem_token other plain decimal') (by simp) (respell [m] f rest)
    rw [respell_of_token f token]
    cases stand with
    | outside => rw [outside, outside', ih]
    | inside =>
      rw [inside, inside', ih]
      refine map_extend fun region more read => ?_
      have ended' : startsWithDigit region = false := by rw [startsWithDigit_region plain read, ended]
      exact respell_of_token f (token?_eq_some_iff.2 ⟨rfl, nonempty, decimal, ended'⟩)
    | closing =>
      rw [closing, closing', ih, Option.map_map, Option.map_map]
      congr 1
      funext found
      simp
  | case2 => cases stand <;> simp [regionsFrom]
  | case3 c rest token ih =>
    rw [respell_of_no_token f token]
    by_cases same : c = quote
    · cases stand with
      | outside => rw [regionsFrom, if_pos same, regionsFrom, if_pos same, ih]
      | inside => rw [regionsFrom, if_pos same, regionsFrom, if_pos same, ih]
      | closing =>
        rw [regionsFrom, if_pos same, regionsFrom, if_pos same, ih]
        refine map_extend fun region more read => ?_
        subst same
        exact respell_of_no_token f (token?_singleton_of_like token (Or.inl other))
    · cases stand with
      | outside => rw [regionsFrom, if_neg same, regionsFrom, if_neg same, ih]
      | inside =>
        rw [regionsFrom, if_neg same, regionsFrom, if_neg same, ih]
        exact map_extend fun region more read =>
          respell_of_no_token f
            (token?_singleton_of_like token (Or.inr (startsWithDigit_region plain read)))
      | closing =>
        rw [regionsFrom, if_neg same, regionsFrom, if_neg same, ih, Option.map_map, Option.map_map]
        congr 1
        funext found
        simp

include other plain in
/-- Renumbering a text renumbers each of its regions. -/
theorem regions_shiftChars (offset : Nat) (text : List Char) :
    regions quote (shiftChars [m] [m] offset text) =
      (regions quote text).map (List.map (shiftChars [m] [m] offset)) := by
  by_cases none : offset = 0
  · subst none
    have same : shiftChars [m] [m] 0 = id := funext (shiftChars_zero [m])
    rw [shiftChars_zero, same, List.map_id_fun, Option.map_id_fun, id]
  · rw [shiftChars_eq_respell _ none, regions, regionsFrom_respell other plain (keepsNumbers_raise _)]
    congr 2
    funext region
    exact (shiftChars_eq_respell _ none region).symm

end Renumbering

end Text

namespace Reference

open Text

variable {quote : Char}

/-- The names that stand between quotes when the reference is written, in order. -/
def quotedNames (r : Reference) : List (List Char) :=
  r.names.filter (· ≠ ['*'])

theorem regionsFrom_doubled (part : List Char) :
    regionsFrom quote .inside (doubled quote part ++ [quote]) = some [part] := by
  induction part with
  | nil => simp [doubled, regionsFrom]
  | cons c part ih =>
    have step : doubled quote (c :: part) =
        (if c = quote then [quote, quote] else [c]) ++ doubled quote part := List.flatMap_cons
    rw [step]
    by_cases same : c = quote
    · simp [same, regionsFrom, ih, extend]
    · simp [same, regionsFrom, ih, extend]

theorem regions_quotedPart (wild : quote ≠ '*') (part : List Char) :
    regions quote (quotedPart quote part) = some ([part].filter (· ≠ ['*'])) := by
  unfold quotedPart
  split
  · rename_i star
    rw [star]
    exact regions_of_not_mem (by simpa using wild)
  · rename_i name
    rw [List.filter_cons_of_pos (by simpa using name), List.cons_append, regions, regionsFrom, if_pos rfl]
    exact regionsFrom_doubled part

theorem regions_quotedParts (wild : quote ≠ '*') (dot : quote ≠ '.') (parts : List (List Char)) :
    regions quote (quotedParts quote parts) = some (parts.filter (· ≠ ['*'])) := by
  unfold quotedParts
  induction parts with
  | nil => rfl
  | cons part rest ih =>
    have first := regions_quotedPart wild part
    cases rest with
    | nil =>
      rw [List.map_singleton, List.intercalate_singleton]
      exact first
    | cons next rest =>
      have bare : regions quote ['.'] = some [] := regions_of_not_mem (by simpa using dot)
      have tail := regions_append bare ih (Or.inl (by simpa using Ne.symm dot))
      have all := regions_append first tail (Or.inr (by simpa using Ne.symm dot))
      rw [List.map_cons, List.map_cons, List.intercalate_cons_cons, List.append_assoc]
      rw [List.map_cons] at all
      rw [all, List.nil_append, ← List.filter_append, List.singleton_append]

/-- Quoting and reading give the names back. -/
theorem regions_quoted (wild : quote ≠ '*') (dot : quote ≠ '.') (word : quote ∉ [' ', 'A', 'S', ' '])
    (r : Reference) : regions quote (r.quoted quote) = some r.quotedNames := by
  have parts := regions_quotedParts wild dot r.parts
  unfold quoted quotedNames names
  cases r.aliasName with
  | none => simpa using parts
  | some aliasName =>
    have space : quote ≠ ' ' := fun same => word (by simp [same])
    have label := regions_append (regions_of_not_mem word) (regions_quotedPart wild aliasName)
      (Or.inl (by simpa using Ne.symm space))
    have all := regions_append parts label (Or.inr (by simpa using Ne.symm space))
    rw [all, List.nil_append, ← List.filter_append]
    rfl

end Reference

end SqlSelect
