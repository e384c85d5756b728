import Mathlib.Data.List.Basic
import SqlSelect.Proofs.Canonical
import SqlSelect.Proofs.Unquoting
set_option autoImplicit false

/-! What stands in a statement for a name, a column or a table is a phrase of a small language: quoted parts
with dots between them, and an alias behind AS. Each is read as a phrase in one way only, and the phrase holds
all that the caller wrote. -/
namespace SqlSelect.Reference

/-- Parts with dots between them, of which there is one at least. -/
structure DottedName where
  parts : List Part
  written : parts ≠ []

namespace DottedName

variable {quote : Char}

def toChars (quote : Char) (n : DottedName) : List Char :=
  dotted quote n.parts

/-- The name that the parts spell. -/
def decoded (n : DottedName) : List Char :=
  ['.'].intercalate (n.parts.map Part.decoded)

def ofTexts (texts : List (List Char)) (written : texts ≠ []) : DottedName :=
  ⟨texts.map Part.ofText, by simpa using written⟩

theorem toChars_ofTexts {texts : List (List Char)} (written : texts ≠ []) :
    (ofTexts texts written).toChars quote = quotedParts quote texts :=
  (quotedParts_eq_dotted texts).symm

theorem decoded_ofTexts {texts : List (List Char)} (written : texts ≠ []) :
    (ofTexts texts written).decoded = ['.'].intercalate texts := by
  rw [decoded, ofTexts, map_decoded_ofText]

theorem toChars_append_inj (wild : quote ≠ '*') (dot : quote ≠ '.') {n n' : DottedName}
    {rest rest' : List Char} (ended : Ends quote rest) (ended' : Ends quote rest')
    (same : n.toChars quote ++ rest = n'.toChars quote ++ rest') : n = n' ∧ rest = rest' := by
  obtain ⟨parts, written⟩ := n
  obtain ⟨parts', written'⟩ := n'
  obtain ⟨rfl, follow⟩ := dotted_append_inj wild dot written written' ended ended' same
  exact ⟨rfl, follow⟩

theorem toChars_injective (wild : quote ≠ '*') (dot : quote ≠ '.') :
    Function.Injective (toChars quote) := by
  intro n n' same
  have ended : Ends quote [] := ⟨nofun, nofun⟩
  exact (toChars_append_inj wild dot ended ended (congrArg (· ++ []) same)).1

end DottedName

/-- A name, and the alias that it is given if there is one. -/
structure Phrase where
  name : DottedName
  aliasName : Option Part

namespace Phrase

variable {quote : Char}

def toChars (quote : Char) (p : Phrase) : List Char :=
  p.name.toChars quote ++
    match p.aliasName with
    | some part => [' ', 'A', 'S', ' '] ++ part.written quote
    | none => []

def ofReference (r : Reference) (written : r.parts ≠ []) : Phrase :=
  ⟨.ofTexts r.parts written, r.aliasName.map Part.ofText⟩

theorem toChars_ofReference {r : Reference} (written : r.parts ≠ []) :
    (ofReference r written).toChars quote = r.quoted quote := by
  unfold toChars ofReference quoted
  rw [DottedName.toChars_ofTexts]
  cases r.aliasName with
  | none => rfl
  | some aliasName => simp only [Option.map_some, Part.written_ofText]

theorem decoded_ofReference {r : Reference} (written : r.parts ≠ []) :
    (ofReference r written).aliasName.map Part.decoded = r.aliasName := by
  cases h : r.aliasName with
  | none => rw [ofReference, h, Option.map_none, Option.map_none]
  | some aliasName => rw [ofReference, h, Option.map_some, Option.map_some, Part.decoded_ofText]

/-- Since no name runs on over a space, the place where the alias begins is found. -/
theorem toChars_injective (wild : quote ≠ '*') (dot : quote ≠ '.') (space : quote ≠ ' ') :
    Function.Injective (toChars quote) := by
  intro p p' same
  obtain ⟨name, aliasName⟩ := p
  obtain ⟨name', aliasName'⟩ := p'
  -- A name ends with the text or in front of the space, and in both cases `toChars_append_inj` parts it off.
  have closed : Ends quote [] := ⟨nofun, nofun⟩
  have spaced (rest : List Char) : Ends quote (' ' :: rest) :=
    ⟨fun first => space (Option.some.inj first).symm, nofun⟩
  cases aliasName with
  | none =>
    cases aliasName' with
    | none =>
      obtain ⟨rfl, -⟩ := DottedName.toChars_append_inj wild dot closed closed same
      rfl
    | some part' =>
      obtain ⟨-, follow⟩ := DottedName.toChars_append_inj wild dot closed (spaced _) same
      cases follow
  | some part =>
    cases aliasName' with
    | none =>
      obtain ⟨-, follow⟩ := DottedName.toChars_append_inj wild dot (spaced _) closed same
      cases follow
    | some part' =>
      obtain ⟨rfl, follow⟩ := DottedName.toChars_append_inj wild dot (spaced _) (spaced _) same
      have behind : [' ', 'A', 'S', ' '] ++ part.written quote = [' ', 'A', 'S', ' '] ++ part'.written quote :=
        follow
      have alone : part.written quote ++ [] = part'.written quote ++ [] :=
        congrArg (· ++ []) (List.append_cancel_left behind)
      obtain ⟨rfl, -⟩ := Part.written_append_inj wild closed.1 closed.1 alone
      rfl

end Phrase

/-- Three words, and AS is the one in the middle. -/
def IsAliased (text : List Char) : Prop :=
  ∃ first middle last, Text.wordChars text = [first, middle, last] ∧ Text.SameLetters middle ['A', 'S']

/-- What a name and an alias have to say of the text that they were made from: with an alias they are its first
and its last word, and the name is the whole text otherwise. -/
inductive Conveys (text : List Char) (aliased : Prop) : List Char → Option (List Char) → Prop where
  | whole (bare : ¬ aliased) : Conveys text aliased (Text.trimChars text) none
  | ends {first last : List Char} (given : aliased) (front : (Text.wordChars text).head? = some first)
    (back : (Text.wordChars text).getLast? = some last) : Conveys text aliased first (some last)

theorem isAs_iff (word : List Char) : isAs word ↔ Text.SameLetters word ['A', 'S'] :=
  decide_eq_true_iff

theorem columnParts_ne_nil (name : List Char) : columnParts name ≠ [] := by
  unfold columnParts
  split
  · exact List.cons_ne_nil _ _
  · exact splitDots_ne_nil name

theorem intercalate_columnParts (name : List Char) : ['.'].intercalate (columnParts name) = name := by
  unfold columnParts
  split
  · exact List.intercalate_singleton
  · exact intercalate_splitDots name

theorem parts_ofColumn_ne_nil (text : List Char) : (ofColumn text).parts ≠ [] := by
  unfold ofColumn
  split
  · split <;> exact columnParts_ne_nil _
  · exact columnParts_ne_nil _

theorem parts_ofTable_ne_nil (text : List Char) : (ofTable text).parts ≠ [] := by
  unfold ofTable
  split
  · exact splitDots_ne_nil _
  · split <;> exact splitDots_ne_nil _
  · exact splitDots_ne_nil _

theorem conveys_ofColumn (text : List Char) :
    Conveys text (IsAliased text) (['.'].intercalate (ofColumn text).parts) (ofColumn text).aliasName := by
  unfold ofColumn
  split
  · rename_i first middle last words
    split
    · rename_i as
      rw [intercalate_columnParts]
      exact .ends ⟨first, middle, last, words, (isAs_iff middle).1 as⟩ (by rw [words]; rfl)
        (by rw [words]; rfl)
    · rename_i notAs
      rw [intercalate_columnParts]
      refine .whole ?_
      rintro ⟨first', middle', last', words', as⟩
      cases words.symm.trans words'
      exact notAs ((isAs_iff middle).2 as)
  · rename_i other
    rw [intercalate_columnParts]
    exact .whole fun ⟨first, middle, last, words, _⟩ => other first middle last words

theorem conveys_ofTable (text : List Char) :
    Conveys text ((Text.wordChars text).length = 2 ∨ IsAliased text)
      (['.'].intercalate (ofTable text).parts) (ofTable text).aliasName := by
  unfold ofTable
  split
  · rename_i first last words
    rw [intercalate_splitDots]
    exact .ends (Or.inl (by rw [words]; rfl)) (by rw [words]; rfl) (by rw [words]; rfl)
  · rename_i first middle last words
    split
    · rename_i as
      rw [intercalate_splitDots]
      exact .ends (Or.inr ⟨first, middle, last, words, (isAs_iff middle).1 as⟩) (by rw [words]; rfl)
        (by rw [words]; rfl)
    · rename_i notAs
      rw [ofName, intercalate_splitDots]
      refine .whole ?_
      rintro (two | ⟨first', middle', last', words', as⟩)
      · rw [words] at two
        cases two
      · cases words.symm.trans words'
        exact notAs ((isAs_iff middle).2 as)
  · rename_i notTwo notThree
    rw [ofName, intercalate_splitDots]
    refine .whole ?_
    rintro (two | ⟨first, middle, last, words, -⟩)
    · obtain ⟨first, last, words⟩ := List.length_eq_two.1 two
      exact notTwo first last words
    · exact notThree first middle last words

theorem exists_phrase {quote : Char} (wild : quote ≠ '*') (dot : quote ≠ '.') (space : quote ≠ ' ')
    {r : Reference} (written : r.parts ≠ []) {text : List Char} {aliased : Prop}
    (conveyed : Conveys text aliased (['.'].intercalate r.parts) r.aliasName) :
    ∃ p : Phrase, (∀ other : Phrase, other.toChars quote = r.quoted quote ↔ other = p) ∧
      Conveys text aliased p.name.decoded (p.aliasName.map Part.decoded) := by
  refine ⟨.ofReference r written, fun other => ?_, ?_⟩
  · rw [← Phrase.toChars_ofReference written]
    exact (Phrase.toChars_injective wild dot space).eq_iff
  · rw [Phrase.decoded_ofReference, Phrase.ofReference, DottedName.decoded_ofTexts]
    exact conveyed

end SqlSelect.Reference

namespace SqlSelect.Dialect

open Reference

/-- A name in a statement is read as one dotted name only, which spells the name. A column or a table is read as
one phrase only, which says what the caller wrote; a column has an alias when it is three words with AS in the
middle, a table also when it is two words. -/
theorem quoted_read_back {d : Dialect} (wild : d.quote ≠ '*') (dot : d.quote ≠ '.') (space : d.quote ≠ ' ') :
    Function.Injective d.quoteIdentifier ∧ ∀ s : String,
      (∃ n : DottedName,
        (∀ other : DottedName, other.toChars d.quote = (d.quoteIdentifier s).toList ↔ other = n) ∧
        n.decoded = s.toList) ∧
      (∃ p : Phrase,
        (∀ other : Phrase, other.toChars d.quote = (d.quoteColumn s).toList ↔ other = p) ∧
        Conveys s.toList (IsAliased s.toList) p.name.decoded (p.aliasName.map Part.decoded)) ∧
      ∃ p : Phrase,
        (∀ other : Phrase, other.toChars d.quote = (d.quoteTable s).toList ↔ other = p) ∧
        Conveys s.toList ((Text.wordChars s.toList).length = 2 ∨ IsAliased s.toList) p.name.decoded
          (p.aliasName.map Part.decoded) := by
  have identifier (s : String) : (d.quoteIdentifier s).toList =
      (DottedName.ofTexts _ (splitDots_ne_nil s.toList)).toChars d.quote := by
    rw [quoteIdentifier, String.toList_ofList, quoted, ofName, DottedName.toChars_ofTexts, List.append_nil]
  have spelled (s : String) : (DottedName.ofTexts _ (splitDots_ne_nil s.toList)).decoded = s.toList := by
    rw [DottedName.decoded_ofTexts, intercalate_splitDots]
  have reads := DottedName.toChars_injective wild dot
  refine ⟨fun s t same => ?_, fun s => ⟨⟨_, fun other => ?_, spelled s⟩, ?_, ?_⟩⟩
  · have names := reads (((identifier s).symm.trans (congrArg String.toList same)).trans (identifier t))
    rw [← String.toList_inj, ← spelled s, names, spelled]
  · rw [identifier]
    exact reads.eq_iff
  · rw [quoteColumn, String.toList_ofList]
    exact exists_phrase wild dot space (parts_ofColumn_ne_nil _) (conveys_ofColumn _)
  · rw [quoteTable, String.toList_ofList]
    exact exists_phrase wild dot space (parts_ofTable_ne_nil _) (conveys_ofTable _)

/-- Quotes and dots that look like the end of a part, and a wildcard for an alias. -/
theorem quoted_read_back_postgres :
    (∀ other : Phrase, other.toChars '"' = "\"x\"\"\".\"\"\"y\" AS *".toList ↔
        other = ⟨⟨[.quoted "x\"".toList, .quoted "\"y".toList], List.cons_ne_nil _ _⟩, some .wildcard⟩) ∧
      Conveys " x\".\"y\taS  *".toList (IsAliased " x\".\"y\taS  *".toList) "x\".\"y".toList (some ['*']) := by
  have column : (postgres.quoteColumn " x\".\"y\taS  *").toList = "\"x\"\"\".\"\"\"y\" AS *".toList := by
    decide +kernel
  obtain ⟨-, each⟩ := quoted_read_back (d := postgres) (by decide) (by decide) (by decide)
  obtain ⟨-, ⟨p, only, conveyed⟩, -⟩ := each " x\".\"y\taS  *"
  rw [column] at only
  have found := (only ⟨⟨[.quoted "x\"".toList, .quoted "\"y".toList], List.cons_ne_nil _ _⟩, some .wildcard⟩).1
    (by decide +kernel)
  rw [← found] at only conveyed
  exact ⟨only, conveyed⟩

end SqlSelect.Dialect
