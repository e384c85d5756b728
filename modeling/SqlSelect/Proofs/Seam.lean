import SqlSelect.Query.Build
set_option autoImplicit false

/-! Where two pieces of a statement meet, one of them has a separator on that side. So nothing that a
caller wrote can run together with what stands next to it. -/
namespace SqlSelect

namespace Text

/-- What sets the words of a statement apart. A dot does not. -/
def isSeparator (c : Char) : Bool :=
  c = ' ' || c = '(' || c = ')' || c = ','

/-- Nothing stands in front of the first separator. -/
def opens (s : String) : Bool :=
  s.toList.head?.all isSeparator

/-- Nothing stands behind the last separator. -/
def closes (s : String) : Bool :=
  s.toList.getLast?.all isSeparator

/-- The words of the language itself, in capitals, and what they are set apart by. -/
def isKeyword (s : String) : Bool :=
  s.toList.all fun c => isSeparator c || c.isUpper || c = '*'

/-- A keyword that is set apart at both ends. -/
def isSpaced (s : String) : Bool :=
  isKeyword s && opens s && closes s && s ≠ ""

theorem isSpaced_iff {s : String} : isSpaced s ↔ isKeyword s ∧ opens s ∧ closes s ∧ s ≠ "" := by
  simp only [isSpaced, Bool.and_eq_true, decide_eq_true_eq, and_assoc]

theorem opens_append {s t : String} (first : opens s) (written : s ≠ "") : opens (s ++ t) := by
  unfold opens at first ⊢
  rw [String.toList_append]
  cases front : s.toList with
  | nil => exact absurd (String.toList_eq_nil_iff.1 front) written
  | cons c rest => simpa [front] using first

theorem closes_append {s t : String} (last : closes t) (written : t ≠ "") : closes (s ++ t) := by
  unfold closes at last ⊢
  rw [String.toList_append, List.getLast?_append]
  cases back : t.toList.getLast? with
  | none => exact absurd (String.toList_eq_nil_iff.1 (List.getLast?_eq_none_iff.1 back)) written
  | some c => simpa [back] using last

end Text

theorem Fragment.append_assoc (x y z : Fragment) : x ++ y ++ z = x ++ (y ++ z) := by
  change Fragment.mk (x.text ++ y.text ++ z.text) (x.params ++ y.params ++ z.params) = _
  rw [String.append_assoc, List.append_assoc]
  rfl

theorem Fragment.empty_append (x : Fragment) : ⟨"", []⟩ ++ x = x :=
  congr (congrArg Fragment.mk String.empty_append) (List.nil_append _)

namespace Emitter

open Text

theorem ext_run {a b : Emitter} (same : ∀ bound, a.run bound = b.run bound) : a = b :=
  funext same

theorem text_append (s t : String) : text (s ++ t) = text s ++ text t := rfl

@[simp] theorem append_empty (a : Emitter) : a ++ empty = a := by
  apply ext_run
  intro bound
  cases written : a.run bound with
  | error e => exact (run_append_eq_error_iff ..).2 (Or.inl written)
  | ok x =>
    refine (run_append_eq_ok_iff ..).2 ⟨x, ⟨"", []⟩, written, rfl, ?_⟩
    obtain ⟨text, params⟩ := x
    change Fragment.mk text params = ⟨text ++ "", params ++ []⟩
    rw [String.append_empty, List.append_nil]

theorem run_text_append (s : String) (e : Emitter) (bound : Nat) :
    (text s ++ e).run bound = (e.run bound).map fun x => ⟨s, []⟩ ++ x := by
  cases written : e.run bound with
  | error fault => exact (run_append_eq_error_iff ..).2 (Or.inr ⟨⟨s, []⟩, rfl, written⟩)
  | ok x => exact (run_append_eq_ok_iff ..).2 ⟨⟨s, []⟩, x, rfl, written, rfl⟩

theorem empty_append (a : Emitter) : empty ++ a = a := by
  apply ext_run
  intro bound
  rw [empty, run_text_append]
  cases a.run bound with
  | error e => rfl
  | ok x => exact congrArg Except.ok (Fragment.empty_append x)

theorem append_assoc (a b c : Emitter) : a ++ b ++ c = a ++ (b ++ c) := by
  apply ext_run
  intro bound
  cases first : a.run bound with
  | error e =>
    rw [(run_append_eq_error_iff ..).2 (Or.inl first),
      (run_append_eq_error_iff ..).2 (Or.inl ((run_append_eq_error_iff ..).2 (Or.inl first)))]
  | ok x =>
    cases second : b.run (bound + x.params.length) with
    | error e =>
      rw [(run_append_eq_error_iff ..).2
          (Or.inl ((run_append_eq_error_iff ..).2 (Or.inr ⟨x, first, second⟩))),
        (run_append_eq_error_iff ..).2
          (Or.inr ⟨x, first, (run_append_eq_error_iff ..).2 (Or.inl second)⟩)]
    | ok y =>
      have both := (run_append_eq_ok_iff a b bound _).2 ⟨x, y, first, second, rfl⟩
      have counted : bound + (x ++ y).params.length =
          bound + x.params.length + y.params.length := by
        rw [Fragment.append_params, List.length_append, Nat.add_assoc]
      cases third : c.run (bound + x.params.length + y.params.length) with
      | error e =>
        rw [(run_append_eq_error_iff ..).2 (Or.inr ⟨x ++ y, both, counted ▸ third⟩),
          (run_append_eq_error_iff ..).2
            (Or.inr ⟨x, first, (run_append_eq_error_iff ..).2 (Or.inr ⟨y, second, third⟩)⟩)]
      | ok z =>
        rw [(run_append_eq_ok_iff ..).2 ⟨x ++ y, z, both, counted ▸ third, rfl⟩,
          (run_append_eq_ok_iff ..).2 ⟨x, y ++ z, first,
            (run_append_eq_ok_iff ..).2 ⟨y, z, second, third, rfl⟩, rfl⟩]
        exact congrArg Except.ok (Fragment.append_assoc x y z)

/-- Whatever is written starts with a separator, if anything is. -/
def Opens (e : Emitter) : Prop :=
  ∀ bound f, e.run bound = .ok f → opens f.text

/-- Whatever is written ends with a separator, if anything is. -/
def Closes (e : Emitter) : Prop :=
  ∀ bound f, e.run bound = .ok f → closes f.text

theorem opens_text {s : String} (h : opens s) : (text s).Opens := by
  intro bound f written
  cases written
  exact h

theorem closes_text {s : String} (h : closes s) : (text s).Closes := by
  intro bound f written
  cases written
  exact h

theorem opens_text_append {s : String} (e : Emitter) (h : opens s) (written : s ≠ "") :
    (text s ++ e).Opens := by
  intro bound f run
  obtain ⟨x, y, hx, -, rfl⟩ := (run_append_eq_ok_iff ..).1 run
  cases hx
  exact opens_append h written

theorem closes_append_text {s : String} (e : Emitter) (h : closes s) (written : s ≠ "") :
    (e ++ text s).Closes := by
  intro bound f run
  obtain ⟨x, y, -, hy, rfl⟩ := (run_append_eq_ok_iff ..).1 run
  cases hy
  exact closes_append h written

theorem Opens.append {a b : Emitter} (first : a.Opens) (second : b.Opens) : (a ++ b).Opens := by
  intro bound f run
  obtain ⟨x, y, hx, hy, rfl⟩ := (run_append_eq_ok_iff ..).1 run
  by_cases none : x.text = ""
  · rw [Fragment.append_text, none, String.empty_append]
    exact second _ y hy
  · exact opens_append (first _ x hx) none

theorem opens_empty : empty.Opens :=
  opens_text rfl

theorem opens_linkedRest (items : List (Link × Emitter)) : (linked.linkedRest items).Opens := by
  cases items with
  | nil => exact opens_empty
  | cons item rest =>
    obtain ⟨link, e⟩ := item
    rw [linked.linkedRest, append_assoc]
    exact opens_text_append _ (by cases link <;> decide) (by cases link <;> decide)

end Emitter

open Emitter

theorem opens_joinsClause (d : Dialect) (joins : List Join) : (joinsClause d joins).Opens := by
  unfold joinsClause
  induction joins with
  | nil => exact opens_empty
  | cons j joins ih =>
    cases joins with
    | nil => exact opens_text_append _ (by decide) (by decide)
    | cons next joins =>
      have first : (text " " ++ j.emitter d).Opens :=
        opens_text_append _ (by decide) (by decide)
      exact (first.append opens_empty).append ih

theorem opens_whereClause (conditions : List (Link × Emitter)) : (whereClause conditions).Opens := by
  unfold whereClause
  split
  · exact opens_empty
  · exact opens_text_append _ (by decide) (by decide)

theorem opens_orderClause (d : Dialect) (order : List SortKey) : (orderClause d order).Opens := by
  unfold orderClause
  split
  · exact opens_empty
  · exact opens_text_append _ (by decide) (by decide)

theorem opens_numberClause {keyword : String} (h : Text.opens keyword) (written : keyword ≠ "")
    (n : Option Nat) : (numberClause keyword n).Opens := by
  cases n with
  | none => exact opens_empty
  | some n =>
    rw [numberClause, text_append]
    exact opens_text_append _ h written

/-- The rest of a statement behind its list of columns. -/
def Query.afterColumns (d : Dialect) (embed : Embedding) (q : Query) : Emitter :=
  text " FROM " ++ (sourceEmitter d embed q.source ++ (joinsClause d q.joins ++
    (whereClause (q.conditions.map fun c => (c.link, c.predicate.emitterVia d embed)) ++
      (orderClause d q.order ++ (numberClause " LIMIT " q.limit ++
        numberClause " OFFSET " q.offset)))))

theorem Query.emitterVia_eq_afterColumns (d : Dialect) (embed : Embedding) (q : Query) :
    q.emitterVia d embed =
      text "SELECT " ++ (columnsClause (q.columns.map (Column.emitterVia d embed)) ++
        q.afterColumns d embed) := by
  rw [Query.emitterVia_eq, afterColumns]
  simp only [append_assoc]

section Rest

variable (d : Dialect) (embed : Embedding) (q : Query)

theorem opens_offset : (numberClause " OFFSET " q.offset).Opens :=
  opens_numberClause (by decide) (by decide) q.offset

theorem opens_limits : (numberClause " LIMIT " q.limit ++ numberClause " OFFSET " q.offset).Opens :=
  (opens_numberClause (by decide) (by decide) q.limit).append (opens_offset q)

theorem opens_fromOrder : (orderClause d q.order ++
    (numberClause " LIMIT " q.limit ++ numberClause " OFFSET " q.offset)).Opens :=
  (opens_orderClause d q.order).append (opens_limits q)

theorem opens_fromWhere :
    (whereClause (q.conditions.map fun c => (c.link, c.predicate.emitterVia d embed)) ++
      (orderClause d q.order ++
        (numberClause " LIMIT " q.limit ++ numberClause " OFFSET " q.offset))).Opens :=
  (opens_whereClause _).append (opens_fromOrder d q)

theorem opens_fromJoins : (joinsClause d q.joins ++
    (whereClause (q.conditions.map fun c => (c.link, c.predicate.emitterVia d embed)) ++
      (orderClause d q.order ++
        (numberClause " LIMIT " q.limit ++ numberClause " OFFSET " q.offset)))).Opens :=
  (opens_joinsClause d q.joins).append (opens_fromWhere d embed q)

end Rest

theorem opens_afterColumns (d : Dialect) (embed : Embedding) (q : Query) :
    (q.afterColumns d embed).Opens :=
  opens_text_append _ (by decide) (by decide)

end SqlSelect
