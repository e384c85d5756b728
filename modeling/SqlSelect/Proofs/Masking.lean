import SqlSelect.Proofs.Cutting
import SqlSelect.Proofs.Skeleton
set_option autoImplicit false

/-! Names that are read alike. How a name is cut into an alias and parts depends on few of its
characters. Names that differ in nothing but the others leave the same in the skeleton of a
statement. -/
namespace SqlSelect

namespace Text

/-- The characters that decide how a name is read: they cut it, or make a wildcard or the word AS. -/
def isTelling (c : Char) : Bool :=
  isBlank c || c ∈ ['.', '*', '(', 'a', 'A', 's', 'S']

def maskChar (c : Char) : Char :=
  if isTelling c then c else 'x'

/-- The text with an `x` for every character that does not decide how a name is read. -/
def mask (s : String) : String :=
  String.ofList (s.toList.map maskChar)

theorem mask_eq_iff {s t : String} : mask s = mask t ↔ s.toList.map maskChar = t.toList.map maskChar :=
  String.ofList_inj

theorem maskChar_eq_iff {c k : Char} (telling : isTelling k) : maskChar c = k ↔ c = k := by
  unfold maskChar
  split
  · rfl
  · rename_i hidden
    refine ⟨fun same => ?_, fun same => absurd (same ▸ telling) hidden⟩
    rw [← same] at telling
    exact absurd telling (by decide)

theorem isBlank_maskChar (c : Char) : isBlank (maskChar c) = isBlank c := by
  unfold maskChar
  split
  · rfl
  · rename_i hidden
    have plain : isBlank c = false := by
      rw [isTelling, Bool.or_eq_true, not_or] at hidden
      simpa using hidden.1
    rw [plain]
    decide

theorem eq_nil_iff_of_map_maskChar {s t : List Char} (same : s.map maskChar = t.map maskChar) :
    s = [] ↔ t = [] := by
  rw [← List.map_eq_nil_iff, same, List.map_eq_nil_iff]

theorem isEmpty_eq_of_mask {s t : String} (same : mask s = mask t) : s.isEmpty = t.isEmpty := by
  rw [Bool.eq_iff_iff, String.isEmpty_iff, String.isEmpty_iff, ← String.toList_eq_nil_iff,
    ← String.toList_eq_nil_iff, eq_nil_iff_of_map_maskChar (mask_eq_iff.1 same)]

theorem mask_trim (s : String) : mask (trim s) = trim (mask s) := by
  rw [mask, mask, trim, trim, String.toList_ofList, String.toList_ofList, trimChars_map isBlank_maskChar]

theorem splitOn_map {f : Char → Char} {separator : Char} (cut : ∀ c, f c = separator ↔ c = separator)
    (cs : List Char) : (cs.map f).splitOn separator = (cs.splitOn separator).map (List.map f) := by
  induction cs with
  | nil => rfl
  | cons c cs ih =>
    rw [List.map_cons, List.splitOn_cons_eq_if_modifyHead, List.splitOn_cons_eq_if_modifyHead, ih]
    by_cases same : c = separator
    · simp [same, (cut separator).2 rfl]
    · have other : f c ≠ separator := fun mapped => same ((cut c).1 mapped)
      simp only [beq_eq_false_iff_ne.2 same, beq_eq_false_iff_ne.2 other, Bool.false_eq_true, ↓reduceIte]
      cases cs.splitOn separator <;> rfl

/-- No character becomes a capital letter but that letter and the small one. -/
theorem eq_or_eq_of_toUpper_eq {c small : Char} (letter : 'a'.val ≤ small.val ∧ small.val ≤ 'z'.val)
    (same : c.toUpper = small.toUpper) : c = small ∨ c = small.toUpper := by
  delta Char.toUpper at same
  by_cases lower : 'a'.val ≤ c.val ∧ c.val ≤ 'z'.val
  · rw [dif_pos lower, dif_pos letter, Char.ext_iff] at same
    exact Or.inl (Char.ext ((UInt32.add_left_inj _).1 same))
  · rw [dif_neg lower] at same
    exact Or.inr same

theorem toUpper_maskChar {c : Char} (small : Char)
    (letter : 'a'.val ≤ small.val ∧ small.val ≤ 'z'.val)
    (telling : isTelling small ∧ isTelling small.toUpper) (other : small.toUpper ≠ 'X') :
    (maskChar c).toUpper = small.toUpper ↔ c.toUpper = small.toUpper := by
  unfold maskChar
  split
  · rfl
  · rename_i hidden
    refine ⟨fun same => absurd same.symm other, fun same => ?_⟩
    rcases eq_or_eq_of_toUpper_eq letter same with rfl | rfl
    · exact absurd telling.1 hidden
    · exact absurd telling.2 hidden

end Text

namespace Reference

open Text

def mapChars (f : Char → Char) (r : Reference) : Reference :=
  { parts := r.parts.map (List.map f), aliasName := r.aliasName.map (List.map f) }

theorem isAs_mask (word : List Char) : isAs (word.map maskChar) = isAs word := by
  have first (c : Char) : (maskChar c).toUpper = 'A' ↔ c.toUpper = 'A' :=
    toUpper_maskChar 'a' (by decide) (by decide) (by decide)
  have second (c : Char) : (maskChar c).toUpper = 'S' ↔ c.toUpper = 'S' :=
    toUpper_maskChar 's' (by decide) (by decide) (by decide)
  unfold isAs
  rw [decide_eq_decide]
  match word with
  | [] | [_] | _ :: _ :: _ :: _ => simp
  | [a, b] => simp [first, second]

theorem splitDots_mask (name : List Char) :
    splitDots (name.map maskChar) = (splitDots name).map (List.map maskChar) :=
  splitOn_map (fun _ => maskChar_eq_iff (by decide)) name

theorem columnParts_mask (name : List Char) :
    columnParts (name.map maskChar) = (columnParts name).map (List.map maskChar) := by
  have paren : '(' ∈ name.map maskChar ↔ '(' ∈ name := by
    simp [List.mem_map, maskChar_eq_iff (k := '(') (by decide)]
  unfold columnParts
  by_cases call : '(' ∈ name
  · rw [if_pos call, if_pos (paren.2 call)]
    rfl
  · rw [if_neg call, if_neg fun masked => call (paren.1 masked), splitDots_mask]

theorem ofName_mask (name : List Char) :
    ofName (name.map maskChar) = (ofName name).mapChars maskChar := by
  rw [ofName, splitDots_mask]
  rfl

theorem ofColumn_mask (text : List Char) :
    ofColumn (text.map maskChar) = (ofColumn text).mapChars maskChar := by
  unfold ofColumn
  rw [trimChars_map isBlank_maskChar, wordChars_map isBlank_maskChar, columnParts_mask]
  match wordChars text with
  | [] | [_] | [_, _] | _ :: _ :: _ :: _ :: _ => rfl
  | [name, middle, aliasName] =>
    simp only [List.map_cons, List.map_nil, isAs_mask, columnParts_mask]
    cases isAs middle <;> rfl

theorem ofTable_mask (text : List Char) :
    ofTable (text.map maskChar) = (ofTable text).mapChars maskChar := by
  unfold ofTable
  rw [trimChars_map isBlank_maskChar, wordChars_map isBlank_maskChar, ofName_mask]
  match wordChars text with
  | [] | [_] | _ :: _ :: _ :: _ :: _ => rfl
  | [name, aliasName] =>
    simp only [List.map_cons, List.map_nil, splitDots_mask]
    rfl
  | [name, middle, aliasName] =>
    simp only [List.map_cons, List.map_nil, isAs_mask, splitDots_mask]
    cases isAs middle <;> rfl

variable {quote : Char}

theorem sketchedPart_mask (part : List Char) :
    sketchedPart quote (part.map maskChar) = sketchedPart quote part := by
  have wildcard : part.map maskChar = ['*'] ↔ part = ['*'] := by
    match part with
    | [] | _ :: _ :: _ => simp
    | [c] => simp [maskChar_eq_iff (k := '*') (by decide)]
  simp only [sketchedPart, wildcard]

theorem sketch_mask (r : Reference) : (r.mapChars maskChar).sketch quote = r.sketch quote := by
  have parts : sketchedParts quote (r.parts.map (List.map maskChar)) = sketchedParts quote r.parts := by
    rw [sketchedParts, List.map_map]
    exact congrArg _ (List.map_congr_left fun part _ => sketchedPart_mask part)
  rw [sketch, sketch, mapChars, parts]
  cases r.aliasName with
  | none => rfl
  | some aliasName => simp only [Option.map_some, sketchedPart_mask]

variable {s t : List Char} (alike : s.map maskChar = t.map maskChar)

include alike

theorem sketch_ofName : (ofName s).sketch quote = (ofName t).sketch quote := by
  rw [← sketch_mask, ← ofName_mask, alike, ofName_mask, sketch_mask]

theorem sketch_ofColumn : (ofColumn s).sketch quote = (ofColumn t).sketch quote := by
  rw [← sketch_mask, ← ofColumn_mask, alike, ofColumn_mask, sketch_mask]

theorem sketch_ofTable : (ofTable s).sketch quote = (ofTable t).sketch quote := by
  rw [← sketch_mask, ← ofTable_mask, alike, ofTable_mask, sketch_mask]

end Reference

end SqlSelect
