import Mathlib.Data.List.Induction
import SqlSelect.Proofs.QuotedRegion
set_option autoImplicit false

/-! The skeleton of a text: every region between quotes is shrunk to a single quote, and all else stays.
A reader goes through the text once and shows a character only where it stands outside of a region.
Renumbering the skeleton is the same as taking the skeleton of the renumbered text. -/
namespace SqlSelect

namespace Text

variable {quote : Char}

/-- Where the reader stands behind one more character. -/
def Stand.next (quote : Char) : Stand → Char → Stand
  | .inside, c => if c = quote then .closing else .inside
  | .outside, c | .closing, c => if c = quote then .inside else .outside

/-- What is shown of a character. A quote is shown where a region begins, not where it goes on. -/
def Stand.shown (quote : Char) : Stand → Char → List Char
  | .outside, c => [c]
  | .inside, _ => []
  | .closing, c => if c = quote then [] else [c]

def standAfter (quote : Char) : Stand → List Char → Stand
  | stand, [] => stand
  | stand, c :: rest => standAfter quote (stand.next quote c) rest

def outlineFrom (quote : Char) : Stand → List Char → List Char
  | _, [] => []
  | stand, c :: rest => stand.shown quote c ++ outlineFrom quote (stand.next quote c) rest

/-- The text with every region shrunk to one quote, if each of them is closed. -/
def skeleton (quote : Char) (text : List Char) : Option (List Char) :=
  match standAfter quote .outside text with
  | .inside => none
  | .outside | .closing => some (outlineFrom quote .outside text)

theorem skeleton_eq_some_iff {text outline : List Char} : skeleton quote text = some outline ↔
    standAfter quote .outside text ≠ .inside ∧ outlineFrom quote .outside text = outline := by
  unfold skeleton
  cases standAfter quote .outside text <;> simp

theorem standAfter_append (stand : Stand) (s t : List Char) :
    standAfter quote stand (s ++ t) = standAfter quote (standAfter quote stand s) t := by
  induction s generalizing stand with
  | nil => rfl
  | cons c s ih => exact ih (stand.next quote c)

theorem outlineFrom_append (stand : Stand) (s t : List Char) :
    outlineFrom quote stand (s ++ t) =
      outlineFrom quote stand s ++ outlineFrom quote (standAfter quote stand s) t := by
  induction s generalizing stand with
  | nil => rfl
  | cons c s ih =>
    rw [List.cons_append, outlineFrom, outlineFrom, ih, List.append_assoc]
    rfl

/-- Before anything but a quote, a region that may be over is over. -/
theorem from_closing {c : Char} (other : c ≠ quote) (rest : List Char) :
    standAfter quote .closing (c :: rest) = standAfter quote .outside (c :: rest) ∧
      outlineFrom quote .closing (c :: rest) = outlineFrom quote .outside (c :: rest) := by
  have next : Stand.next quote .closing c = Stand.next quote .outside c := rfl
  have shown : Stand.shown quote .closing c = Stand.shown quote .outside c := by
    simp [Stand.shown, other]
  rw [standAfter, standAfter, outlineFrom, outlineFrom, next, shown]
  exact ⟨rfl, rfl⟩

/-- The reader comes to stand behind a quote only by reading one. -/
theorem getLast?_of_standAfter_closing {s : List Char}
    (closing : standAfter quote .outside s = .closing) : s.getLast? = some quote := by
  induction s using List.reverseRecOn with
  | nil => cases closing
  | append_singleton s c ih =>
    rw [List.getLast?_concat]
    rw [standAfter_append] at closing
    change Stand.next quote (standAfter quote .outside s) c = .closing at closing
    by_cases same : c = quote
    · exact congrArg some same
    · cases stand : standAfter quote .outside s <;> simp [stand, Stand.next, same] at closing

theorem skeleton_append {s t k l : List Char} (first : skeleton quote s = some k)
    (second : skeleton quote t = some l)
    (apart : s.getLast? ≠ some quote ∨ t.head? ≠ some quote) :
    skeleton quote (s ++ t) = some (k ++ l) := by
  obtain ⟨closed, rfl⟩ := skeleton_eq_some_iff.1 first
  obtain ⟨closed', rfl⟩ := skeleton_eq_some_iff.1 second
  rw [skeleton_eq_some_iff, standAfter_append, outlineFrom_append]
  cases stand : standAfter quote .outside s with
  | inside => exact absurd stand closed
  | outside => exact ⟨closed', rfl⟩
  | closing =>
    cases t with
    | nil => exact ⟨by simp [standAfter], rfl⟩
    | cons c t =>
      have other : c ≠ quote := fun same =>
        apart.elim (fun last => last (getLast?_of_standAfter_closing stand)) fun head =>
          head (congrArg some same)
      obtain ⟨sameStand, sameOutline⟩ := from_closing other t
      rw [sameStand, sameOutline]
      exact ⟨closed', rfl⟩

/-- Where the reader stands once it has read anything but a quote. -/
def Stand.settled : Stand → Stand
  | .inside => .inside
  | .outside | .closing => .outside

/-- What is shown of a text without quotes. -/
def Stand.visible : Stand → List Char → List Char
  | .inside, _ => []
  | .outside, text | .closing, text => text

theorem read_plain {text : List Char} (free : quote ∉ text) (written : text ≠ []) (stand : Stand) :
    standAfter quote stand text = stand.settled ∧ outlineFrom quote stand text = stand.visible text := by
  induction text generalizing stand with
  | nil => exact absurd rfl written
  | cons c text ih =>
    rw [List.mem_cons, not_or] at free
    have other : c ≠ quote := Ne.symm free.1
    have next : stand.next quote c = stand.settled := by
      cases stand <;> simp [Stand.next, Stand.settled, other]
    have shown : stand.shown quote c = stand.visible [c] := by
      cases stand <;> simp [Stand.shown, Stand.visible, other]
    rw [standAfter, outlineFrom, next, shown]
    cases text with
    | nil => exact ⟨rfl, List.append_nil _⟩
    | cons c' text =>
      obtain ⟨stays, rest⟩ := ih free.2 (List.cons_ne_nil _ _) stand.settled
      rw [stays, rest]
      cases stand <;> exact ⟨rfl, rfl⟩

theorem skeleton_of_not_mem {text : List Char} (free : quote ∉ text) :
    skeleton quote text = some text := by
  by_cases written : text = []
  · rw [written]
    rfl
  · obtain ⟨outside, shown⟩ := read_plain free written .outside
    rw [skeleton_eq_some_iff, outside]
    exact ⟨by simp [Stand.settled], shown⟩

section Renumbering

open Placeholder

variable {m : Char} {f : List Char → List Char}

theorem startsWithDigit_outline (text : List Char) :
    startsWithDigit (outlineFrom quote .outside text) = startsWithDigit text := by
  cases text <;> rfl

variable (other : quote ≠ m) (plain : isDecimalDigit quote = false)

include other plain in
/-- No placeholder reaches over the edge of a region, so those outside are renumbered as before. -/
theorem read_respell (keeps : KeepsNumbers f) (stand : Stand) (text : List Char) :
    standAfter quote stand (respell [m] f text) = standAfter quote stand text ∧
      outlineFrom quote stand (respell [m] f text) =
        respell [m] f (outlineFrom quote stand text) := by
  fun_induction scan [m] text generalizing stand with
  | case1 text digits rest token ih =>
    obtain ⟨rfl, nonempty, decimal, ended⟩ := token?_eq_some_iff.1 token
    obtain ⟨nonempty', decimal'⟩ := keeps digits nonempty decimal
    have free := quote_not_mem_token other plain decimal
    have free' := quote_not_mem_token other plain decimal'
    -- The token has no quote in it, so behind it the reader stands as before, however it is spelled.
    obtain ⟨stays, shown⟩ := read_plain free (by simp) stand
    obtain ⟨stays', shown'⟩ := read_plain free' (by simp) stand
    obtain ⟨restStand, restOutline⟩ := ih stand.settled
    rw [respell_of_token f token, standAfter_append stand ([m] ++ digits),
      standAfter_append stand ([m] ++ f digits), outlineFrom_append stand ([m] ++ digits),
      outlineFrom_append stand ([m] ++ f digits), stays, stays', shown, shown', restOutline]
    refine ⟨restStand, ?_⟩
    have ended' : startsWithDigit (outlineFrom quote .outside rest) = false := by
      rw [startsWithDigit_outline, ended]
    have token' : token? [m] ([m] ++ digits ++ outlineFrom quote .outside rest) =
        some (digits, outlineFrom quote .outside rest) :=
      token?_eq_some_iff.2 ⟨rfl, nonempty, decimal, ended'⟩
    cases stand with
    | inside => rfl
    | outside => exact (respell_of_token f token').symm
    | closing => exact (respell_of_token f token').symm
  | case2 => cases stand <;> simp [standAfter, outlineFrom]
  | case3 c rest token ih =>
    obtain ⟨sameStand, sameOutline⟩ := ih (stand.next quote c)
    rw [respell_of_no_token f token]
    refine ⟨sameStand, ?_⟩
    rw [outlineFrom, outlineFrom, sameOutline]
    -- A marker that is shown has its next character shown as well: only a quote hides what follows.
    have shown : stand.shown quote c = [] ∨ stand.shown quote c = [c] ∧
        (c ≠ m ∨ stand.next quote c = .outside) := by
      by_cases same : c = quote
      · cases stand <;> simp [Stand.shown, same, other]
      · cases stand <;> simp [Stand.shown, Stand.next, same]
    rcases shown with hidden | ⟨plain, apart⟩
    · rw [hidden]
      rfl
    · rw [plain]
      refine (respell_of_no_token f (token?_singleton_of_like token (apart.imp_right fun out => ?_))).symm
      rw [out, startsWithDigit_outline]

include other plain in
/-- The skeleton of a renumbered text is the renumbered skeleton. -/
theorem skeleton_shiftChars (offset : Nat) (text : List Char) :
    skeleton quote (shiftChars [m] [m] offset text) =
      (skeleton quote text).map (shiftChars [m] [m] offset) := by
  by_cases none : offset = 0
  · subst none
    have same : shiftChars [m] [m] 0 = id := funext (shiftChars_zero [m])
    rw [shiftChars_zero, same, Option.map_id_fun, id]
  · obtain ⟨stand, outline⟩ := read_respell other plain (keepsNumbers_raise offset) .outside text
    rw [shiftChars_eq_respell _ none, skeleton, skeleton, stand, outline]
    cases standAfter quote .outside text <;> simp [shiftChars_eq_respell _ none]

end Renumbering

end Text

namespace Reference

open Text

variable {quote : Char}

/-- A part as the skeleton of a statement shows it. -/
def sketchedPart (quote : Char) (part : List Char) : List Char :=
  if part = ['*'] then ['*'] else [quote]

def sketchedParts (quote : Char) (parts : List (List Char)) : List Char :=
  ['.'].intercalate (parts.map (sketchedPart quote))

/-- The reference as the skeleton of a statement shows it: its dots, wildcards and alias, and a quote for
every name. -/
def sketch (quote : Char) (r : Reference) : List Char :=
  sketchedParts quote r.parts ++
    match r.aliasName with
    | some aliasName => [' ', 'A', 'S', ' '] ++ sketchedPart quote aliasName
    | none => []

theorem read_doubled (quote : Char) (part : List Char) :
    standAfter quote .inside (doubled quote part ++ [quote]) = .closing ∧
      outlineFrom quote .inside (doubled quote part ++ [quote]) = [] := by
  induction part with
  | nil => simp [doubled, standAfter, outlineFrom, Stand.next, Stand.shown]
  | cons c part ih =>
    have step : doubled quote (c :: part) =
        (if c = quote then [quote, quote] else [c]) ++ doubled quote part := List.flatMap_cons
    rw [step]
    by_cases same : c = quote <;>
      simp [same, standAfter, outlineFrom, Stand.next, Stand.shown, ih]

/-- Whatever a name holds, it is one region. -/
theorem skeleton_quotedPart (wild : quote ≠ '*') (part : List Char) :
    skeleton quote (quotedPart quote part) = some (sketchedPart quote part) := by
  unfold quotedPart sketchedPart
  split
  · exact skeleton_of_not_mem (by simpa using wild)
  · obtain ⟨closing, hidden⟩ := read_doubled quote part
    rw [skeleton_eq_some_iff, List.cons_append, standAfter, outlineFrom, Stand.next, if_pos rfl, closing,
      hidden]
    exact ⟨by simp, rfl⟩

theorem skeleton_quotedParts (wild : quote ≠ '*') (dot : quote ≠ '.') (parts : List (List Char)) :
    skeleton quote (quotedParts quote parts) = some (sketchedParts quote parts) := by
  unfold quotedParts sketchedParts
  induction parts with
  | nil => rfl
  | cons part rest ih =>
    have first := skeleton_quotedPart wild part
    cases rest with
    | nil =>
      rw [List.map_singleton, List.map_singleton, List.intercalate_singleton, List.intercalate_singleton]
      exact first
    | cons next rest =>
      have bare : skeleton quote ['.'] = some ['.'] := skeleton_of_not_mem (by simpa using dot)
      have tail := skeleton_append bare ih (Or.inl (by simpa using Ne.symm dot))
      have all := skeleton_append first tail (Or.inr (by simpa using Ne.symm dot))
      rw [List.map_cons, List.map_cons, List.map_cons, List.map_cons, List.intercalate_cons_cons,
        List.intercalate_cons_cons, List.append_assoc, List.append_assoc]
      exact all

theorem skeleton_quoted (wild : quote ≠ '*') (dot : quote ≠ '.') (word : quote ∉ [' ', 'A', 'S', ' '])
    (r : Reference) : skeleton quote (r.quoted quote) = some (r.sketch quote) := by
  have parts := skeleton_quotedParts wild dot r.parts
  unfold quoted sketch
  cases r.aliasName with
  | none => simpa using parts
  | some aliasName =>
    have space : quote ≠ ' ' := fun same => word (by simp [same])
    have label := skeleton_append (skeleton_of_not_mem word) (skeleton_quotedPart wild aliasName)
      (Or.inl (by simpa using Ne.symm space))
    exact skeleton_append parts label (Or.inr (by simpa using Ne.symm space))

end Reference

end SqlSelect
