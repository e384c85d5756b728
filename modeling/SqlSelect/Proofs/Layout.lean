import SqlSelect.Proofs.Rewriting
set_option autoImplicit false

/-! A text laid out as its tokens and the gaps between them. Every text has one layout, and renumbering writes
the tokens of the layout anew and keeps its gaps. -/
namespace SqlSelect.Placeholder

open Text (isDecimalDigit)

/-- Gaps and tokens in turn, with a gap at both ends. A token is given by its digits, as the marker in front
of them is always the same. -/
inductive Layout where
  | last (gap : List Char)
  | token (gap digits : List Char) (rest : Layout)
  deriving DecidableEq

namespace Layout

/-- The gaps as they are, and between them what is written for the tokens. -/
def written (write : List Char → List Char) : Layout → List Char
  | last gap => gap
  | token gap digits rest => gap ++ (write digits ++ rest.written write)

def mapDigits (f : List Char → List Char) : Layout → Layout
  | last gap => last gap
  | token gap digits rest => token gap (f digits) (rest.mapDigits f)

/-- Nowhere in the gap, which `behind` follows, does the marker begin with a digit right after it. -/
def Clear (marker gap behind : List Char) : Prop :=
  ∀ before after tail, gap = before ++ after → after ≠ [] → after ++ behind = marker ++ tail →
    startsWithDigit tail = false

end Layout

/-- What it is to lay a text out: a token is the marker with all the digits that follow it, of which there
is one at least, and no other place of the text begins like a token. -/
inductive LaidOut (marker : List Char) : List Char → Layout → Prop where
  | last {gap : List Char} (clear : Layout.Clear marker gap []) : LaidOut marker gap (.last gap)
  | token {gap digits behind : List Char} {rest : Layout}
    (clear : Layout.Clear marker gap (marker ++ digits ++ behind)) (nonempty : digits ≠ [])
    (decimal : ∀ c ∈ digits, isDecimalDigit c) (ended : startsWithDigit behind = false)
    (others : LaidOut marker behind rest) :
    LaidOut marker (gap ++ (marker ++ digits ++ behind)) (.token gap digits rest)

/-- A token after the shift: its number raised by the offset behind the new marker. A token without a number,
or with one that cannot be raised so far, stays as it is. -/
def renumbered (marker newMarker : List Char) (offset : Nat) (digits : List Char) : List Char :=
  match number? digits with
  | some n => if n + offset ≤ maxNumber then newMarker ++ Nat.toDigits 10 (n + offset) else marker ++ digits
  | none => marker ++ digits

namespace Layout

variable {marker text : List Char}

theorem clear_nil (marker behind : List Char) : Clear marker [] behind := by
  intro before after tail split written
  exact absurd (List.append_eq_nil_iff.1 split.symm).2 written

theorem clear_cons_iff {c : Char} {gap behind : List Char} :
    Clear marker (c :: gap) behind ↔
      token? marker (c :: (gap ++ behind)) = none ∧ Clear marker gap behind := by
  -- The marker may begin in the gap and end behind it, so the first place is judged by the whole text.
  have first : token? marker (c :: (gap ++ behind)) = none ↔
      ∀ tail, c :: (gap ++ behind) = marker ++ tail → startsWithDigit tail = false := by
    rw [← Option.isNone_iff_eq_none, ← Option.isSome_eq_false_iff, ← Bool.not_eq_true, token?_isSome_iff]
    simp only [not_exists, not_and, Bool.not_eq_true]
  rw [first]
  constructor
  · intro clear
    exact ⟨fun tail => clear [] (c :: gap) tail rfl (List.cons_ne_nil c gap),
      fun before after tail split => clear (c :: before) after tail (by rw [split]; rfl)⟩
  · rintro ⟨start, clear⟩ before after tail split written
    cases before with
    | nil =>
      rw [List.nil_append] at split
      subst split
      exact start tail
    | cons b before => exact clear before after tail (List.cons.inj split).2 written

/-- A gap is read character by character, whatever is read behind it. -/
theorem scan_of_clear {gap behind : List Char} (clear : Clear marker gap behind) :
    scan marker (gap ++ behind) = gap.map .plain ++ scan marker behind := by
  induction gap with
  | nil => rfl
  | cons c gap ih =>
    obtain ⟨noToken, clear⟩ := clear_cons_iff.1 clear
    rw [List.cons_append, scan_of_no_token noToken, ih clear]
    rfl

/-- A character more at the front of the first gap. -/
def cons (c : Char) : Layout → Layout
  | last gap => last (c :: gap)
  | token gap digits rest => token (c :: gap) digits rest

/-- The layout of a text that is read as these pieces. -/
def ofPieces : List Piece → Layout
  | [] => last []
  | .plain c :: pieces => (ofPieces pieces).cons c
  | .numbered digits :: pieces => token [] digits (ofPieces pieces)

theorem ofPieces_plain (gap : List Char) : ofPieces (gap.map .plain) = last gap := by
  induction gap with
  | nil => rfl
  | cons c gap ih => rw [List.map_cons, ofPieces, ih, cons]

theorem ofPieces_token (gap digits : List Char) (pieces : List Piece) :
    ofPieces (gap.map .plain ++ .numbered digits :: pieces) = token gap digits (ofPieces pieces) := by
  induction gap with
  | nil => rfl
  | cons c gap ih => rw [List.map_cons, List.cons_append, ofPieces, ih, cons]

theorem written_cons (write : List Char → List Char) (c : Char) (l : Layout) :
    (l.cons c).written write = c :: l.written write := by
  cases l <;> rfl

theorem mapDigits_cons (f : List Char → List Char) (c : Char) (l : Layout) :
    (l.cons c).mapDigits f = (l.mapDigits f).cons c := by
  cases l <;> rfl

/-- Tokens are written in their layout as they are in the text. -/
theorem written_ofPieces (write : List Char → List Char) (text : List Char) :
    (ofPieces (scan marker text)).written write = rewritten marker write text := by
  rw [rewritten]
  induction scan marker text with
  | nil => rfl
  | cons p pieces ih =>
    cases p with
    | plain c => rw [ofPieces, written_cons, ih, List.flatMap_cons, List.singleton_append]
    | numbered digits => rw [ofPieces, written, ih, List.flatMap_cons, List.nil_append]

theorem ofPieces_mapDigits (f : List Char → List Char) (pieces : List Piece) :
    ofPieces (pieces.map (Piece.mapDigits f)) = (ofPieces pieces).mapDigits f := by
  induction pieces with
  | nil => rfl
  | cons p pieces ih =>
    cases p with
    | plain c => rw [List.map_cons, Piece.mapDigits, ofPieces, ih, ofPieces, mapDigits_cons]
    | numbered digits => rw [List.map_cons, Piece.mapDigits, ofPieces, ih, ofPieces, mapDigits]

end Layout

namespace LaidOut

variable {marker text : List Char}

theorem cons {c : Char} {l : Layout} (laid : LaidOut marker text l)
    (noToken : token? marker (c :: text) = none) : LaidOut marker (c :: text) (l.cons c) := by
  cases laid with
  | last clear =>
    refine .last (Layout.clear_cons_iff.2 ⟨?_, clear⟩)
    rwa [List.append_nil]
  | token clear nonempty decimal ended others =>
    exact .token (Layout.clear_cons_iff.2 ⟨noToken, clear⟩) nonempty decimal ended others

theorem eq_ofPieces {l : Layout} (laid : LaidOut marker text l) :
    l = Layout.ofPieces (scan marker text) := by
  -- By induction on the layout: nothing is read in the gap, and then the whole token is.
  induction laid with
  | last clear =>
    have read := Layout.scan_of_clear clear
    rw [List.append_nil, scan_nil, List.append_nil] at read
    rw [read, Layout.ofPieces_plain]
  | @token gap digits behind rest clear nonempty decimal ended others ih =>
    have next : scan marker (marker ++ digits ++ behind) = .numbered digits :: scan marker behind :=
      scan_of_token (token?_eq_some_iff.2 ⟨rfl, nonempty, decimal, ended⟩)
    rw [Layout.scan_of_clear clear, next, Layout.ofPieces_token, ← ih]

end LaidOut

section

variable {marker text : List Char}

/-- Reading from left to right finds the one layout that there is. -/
theorem laidOut_iff {l : Layout} : LaidOut marker text l ↔ l = Layout.ofPieces (scan marker text) := by
  refine ⟨LaidOut.eq_ofPieces, ?_⟩
  rintro rfl
  fun_induction scan marker text with
  | case1 text digits rest token ih =>
    obtain ⟨rfl, nonempty, decimal, ended⟩ := token?_eq_some_iff.1 token
    exact .token (Layout.clear_nil _ _) nonempty decimal ended ih
  | case2 => exact .last (Layout.clear_nil _ _)
  | case3 c rest token ih => exact ih.cons token

theorem shiftChars_eq_rewritten (newMarker : List Char) {offset : Nat} (positive : offset ≠ 0) :
    shiftChars marker newMarker offset text =
      rewritten marker (renumbered marker newMarker offset) text := by
  rw [shiftChars, if_neg positive, rewritten]
  refine List.flatMap_congr fun p _ => ?_
  cases p <;> rfl

end

/-- A text has one layout. Renumbering writes its tokens anew and keeps its gaps; with the marker kept as well,
the tokens are found again at their places. -/
theorem shift_written_layout {marker : String} (free : DigitFree marker.toList) (newMarker sql : String) :
    (∃! l, LaidOut marker.toList sql.toList l) ∧
      (∀ l, LaidOut marker.toList sql.toList l →
        sql.toList = l.written (marker.toList ++ ·) ∧
        ∀ offset, 0 < offset →
          (shift marker newMarker offset sql).toList =
              l.written (renumbered marker.toList newMarker.toList offset) ∧
            ∀ found, LaidOut marker.toList (shift marker marker offset sql).toList found ↔
              found = l.mapDigits (raise offset)) ∧
      shift marker newMarker 0 sql = sql := by
  refine ⟨⟨_, laidOut_iff.2 rfl, fun _ => LaidOut.eq_ofPieces⟩, ?_, shift_zero marker newMarker sql⟩
  intro l laid
  rw [laidOut_iff] at laid
  subst laid
  constructor
  · rw [Layout.written_ofPieces, rewritten_eq_unscan, unscan_scan]
  intro offset positive
  have shifts : offset ≠ 0 := Nat.pos_iff_ne_zero.1 positive
  constructor
  · rw [shift, String.toList_ofList, shiftChars_eq_rewritten _ shifts, Layout.written_ofPieces]
  · intro found
    rw [laidOut_iff, shift, String.toList_ofList, shiftChars_eq_respell _ shifts,
      scan_respell free (keepsNumbers_raise offset), Layout.ofPieces_mapDigits]

/-- A third dollar stands in the first gap, and nothing in the gap before the last token. Two numbers change
their width; a digit of another script is no number, and the largest number cannot be raised. -/
theorem shift_written_layout_dollars :
    LaidOut "$$".toList "$$$9 = $$007x$$٣$$18446744073709551615".toList
        (.token ['$'] ['9'] (.token " = ".toList "007".toList (.token ['x'] ['٣']
          (.token [] "18446744073709551615".toList (.last []))))) ∧
      (shift "$$" "?" 1 "$$$9 = $$007x$$٣$$18446744073709551615").toList =
        "$?10 = ?8x$$٣$$18446744073709551615".toList ∧
      LaidOut "$$".toList (shift "$$" "$$" 1 "$$$9 = $$007x$$٣$$18446744073709551615").toList
        (.token ['$'] "10".toList (.token " = ".toList ['8'] (.token ['x'] ['٣']
          (.token [] "18446744073709551615".toList (.last []))))) := by
  have free : DigitFree "$$".toList := by decide
  have laid : LaidOut "$$".toList "$$$9 = $$007x$$٣$$18446744073709551615".toList
      (.token ['$'] ['9'] (.token " = ".toList "007".toList (.token ['x'] ['٣']
        (.token [] "18446744073709551615".toList (.last []))))) :=
    laidOut_iff.2 (by decide +kernel)
  obtain ⟨-, each, -⟩ := shift_written_layout free "?" "$$$9 = $$007x$$٣$$18446744073709551615"
  obtain ⟨-, shifted⟩ := each _ laid
  obtain ⟨written, found⟩ := shifted 1 (by decide)
  exact ⟨laid, written.trans (by decide +kernel), (found _).2 (by decide +kernel)⟩

end SqlSelect.Placeholder
