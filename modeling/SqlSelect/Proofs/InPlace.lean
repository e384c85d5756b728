import SqlSelect.Proofs.Parameters
import SqlSelect.Proofs.Template
import SqlSelect.Proofs.TokenFree
set_option autoImplicit false

/-! Writing a subquery on its own and renumbering it comes to the same as writing it in place, counting on
from the values of the statement around it. -/
namespace SqlSelect

open Emitter Placeholder

/-- A subquery written where it stands, after the values bound so far. The check comes first. -/
def Emitter.inPlace : Embedding := fun check body bound => do
  check
  body bound

/-- Writes a query and all of its subqueries in one pass. -/
def Query.compileInPlace (d : Dialect) (q : Query) : Except Fault Fragment :=
  (q.emitterVia d inPlace).run 0

theorem Emitter.run_inPlace (check : Except Fault Unit) (body : Emitter) (bound : Nat) :
    (inPlace check body).run bound = check.bind fun _ => body.run bound := rfl

/-- Two ways of writing a piece, the one after `bound` values and the other after `offset` more. They
bind the same values, the second text is the first one renumbered, and no placeholder in the first is
beyond its values. If one is refused, so is the other, for the same fault. -/
inductive Raised (d : Dialect) (offset bound : Nat) :
    Except Fault Fragment → Except Fault Fragment → Prop
  | refused (e : Fault) : Raised d offset bound (.error e) (.error e)
  | written {s t : String} {params : List Value}
      (text : d.Carries (bound + offset + params.length) →
        t = d.renumber offset s ∧ ∀ n, some n ∈ d.numbersIn s → n ≤ bound + params.length) :
      Raised d offset bound (.ok ⟨s, params⟩) (.ok ⟨t, params⟩)

/-- The second emitter writes at any place what the first one writes, renumbered. -/
def Emitter.RaisedTo (d : Dialect) (a a' : Emitter) : Prop :=
  ∀ bound offset, Raised d offset bound (a.run bound) (a'.run (bound + offset))

namespace Emitter

variable {d : Dialect}

theorem raisedTo_text {s : String} (readable : d.Readable) (free : d.holdsToken s = false) :
    (text s).RaisedTo d (text s) := by
  intro bound offset
  refine .written fun _ => ⟨(readable.renumber_of_no_token offset free).symm, ?_⟩
  rw [readable.numbersIn_of_no_token free]
  exact fun _ absent => nomatch absent

theorem raisedTo_verbatim {sql : RawSql} (readable : d.Readable)
    (free : d.holdsToken sql.text = false) : (verbatim sql).RaisedTo d (verbatim sql) := by
  intro bound offset
  refine .written fun _ => ⟨(readable.renumber_of_no_token offset free).symm, ?_⟩
  rw [readable.numbersIn_of_no_token free]
  exact fun _ absent => nomatch absent

theorem raisedTo_parameter (readable : d.Readable) (v : Value) :
    (parameter d v).RaisedTo d (parameter d v) := by
  intro bound offset
  refine .written fun carries => ?_
  have next : bound + offset + 1 = bound + 1 + offset := by omega
  rw [List.length_singleton] at carries ⊢
  rw [next] at carries ⊢
  refine ⟨(readable.renumber_placeholder carries).symm, fun n inside => ?_⟩
  rw [readable.mem_numbersIn_placeholder (carries.mono (Nat.le_add_right _ _)) inside]

theorem raisedTo_template {sql : RawSql} (readable : d.Readable)
    (free : d.spoilsTemplate sql.text = false) : (template d sql).RaisedTo d (template d sql) := by
  intro bound offset
  rw [run_template, run_template]
  split
  · rename_i count
    refine .written fun carries => ?_
    rw [← count] at carries ⊢
    have first : bound + markers sql.text.toList ≤ bound + offset + markers sql.text.toList := by
      omega
    exact ⟨(renumber_filled readable free carries).symm, fun n inside =>
      le_of_mem_numbersIn_filled readable free (carries.mono first) inside⟩
  · exact .refused _

theorem raisedTo_fail (e : Fault) : (fail e).RaisedTo d (fail e) :=
  fun _ _ => .refused e

theorem RaisedTo.append (readable : d.Readable) {a a' b b' : Emitter} (first : a.RaisedTo d a')
    (second : b.RaisedTo d b') (seam : a.Closes ∨ b.Opens) : (a ++ b).RaisedTo d (a' ++ b') := by
  intro bound offset
  generalize hx : a.run bound = x, hx' : a'.run (bound + offset) = x'
  have front := first bound offset
  rw [hx, hx'] at front
  cases front with
  | refused e =>
    rw [(run_append_eq_error_iff ..).2 (Or.inl hx), (run_append_eq_error_iff ..).2 (Or.inl hx')]
    exact .refused e
  | @written s t params left =>
    have place : bound + offset + params.length = bound + params.length + offset := by omega
    generalize hy : b.run (bound + params.length) = y,
      hy' : b'.run (bound + offset + params.length) = y'
    have back := second (bound + params.length) offset
    rw [hy, ← place, hy'] at back
    cases back with
    | refused e =>
      rw [(run_append_eq_error_iff ..).2 (Or.inr ⟨_, hx, hy⟩),
        (run_append_eq_error_iff ..).2 (Or.inr ⟨_, hx', hy'⟩)]
      exact .refused e
    | @written s' t' params' right =>
      rw [(run_append_eq_ok_iff ..).2 ⟨_, _, hx, hy, rfl⟩,
        (run_append_eq_ok_iff ..).2 ⟨_, _, hx', hy', rfl⟩]
      refine .written fun carries => ?_
      simp only [List.length_append] at carries ⊢
      obtain ⟨rfl, leftBound⟩ := left (carries.mono (by omega))
      obtain ⟨rfl, rightBound⟩ := right (carries.mono (by omega))
      have seam' : Text.closes s ∨ Text.opens s' :=
        seam.imp (fun closed => closed _ _ hx) fun opened => opened _ _ hy
      refine ⟨(readable.renumber_append offset seam').symm, fun n inside => ?_⟩
      rw [readable.numbersIn_append seam', List.mem_append] at inside
      rcases inside with left | right
      · have own := leftBound n left
        omega
      · have own := rightBound n right
        omega

/-- A statement renumbered where it stands, and renumbered again with the text around it, is raised by
the values before both. -/
theorem RaisedTo.embedded (readable : d.Readable) {check : Except Fault Unit} {body body' : Emitter}
    (inner : body.RaisedTo d body') :
    (embedded d check body).RaisedTo d (inPlace check body') := by
  intro bound offset
  rw [run_embedded, run_inPlace]
  cases check with
  | error e => exact .refused e
  | ok u =>
    have alone := inner 0 (bound + offset)
    rw [Nat.zero_add] at alone
    simp only [Except.bind]
    generalize body.run 0 = x, body'.run (bound + offset) = x' at alone
    cases alone with
    | refused e => exact .refused e
    | @written s t params raised =>
      refine .written fun (carries : d.Carries (bound + offset + params.length)) => ?_
      rw [Nat.zero_add] at raised
      obtain ⟨rfl, reach⟩ := raised carries
      have inRange : ∀ n, some n ∈ d.numbersIn s → n + bound + offset ≤ maxNumber := by
        intro n inside
        have last := reach n inside
        have fits := readable.fits_of_mem_numbersIn carries inside
        omega
      refine ⟨(readable.renumber_renumber inRange).symm, fun n inside => ?_⟩
      rw [readable.numbersIn_renumber fun n inside => by have := inRange n inside; omega,
        List.mem_map] at inside
      obtain ⟨r, inside, same⟩ := inside
      obtain ⟨k, rfl, rfl⟩ := Option.map_eq_some_iff.1 same
      have own := reach k inside
      change k + bound ≤ bound + params.length
      omega

end Emitter

theorem raisedTo_compositional {d : Dialect} (readable : d.Readable) :
    Compositional (.tokenFree d) d (reading d inPlace) (RaisedTo d) :=
  .of_tokenFree readable _ _ (raisedTo_text readable) (raisedTo_parameter readable)
    (raisedTo_template readable) raisedTo_fail (RaisedTo.append readable)

/-- Embedding by renumbering and writing in place are related at every query without placeholders of its
caller's own. -/
theorem Query.emitter_raisedTo {d : Dialect} (readable : d.Readable) (q : Query)
    (met : q.meets (.tokenFree d)) : (q.emitter d).RaisedTo d (q.emitterVia d inPlace) := by
  rw [← Query.read_reading d inPlace]
  refine (raisedTo_compositional readable).query (embedded d) (fun free => ?_) (fun q inner => ?_) q met
  · exact raisedTo_verbatim readable (by simpa [TextRules.tokenFree] using free)
  · exact inner.embedded readable

theorem Emitter.RaisedTo.run_zero {d : Dialect} {a a' : Emitter} {f : Except Fault Fragment}
    (raised : a.RaisedTo d a') (written : a.run 0 = f)
    (carries : ∀ x, f = .ok x → d.Carries x.params.length) : a'.run 0 = f := by
  have start := raised 0 0
  rw [written] at start
  generalize a'.run 0 = g at start ⊢
  cases start with
  | refused e => rfl
  | @written s t params text =>
    have fits := carries _ rfl
    obtain ⟨rfl, -⟩ := text (fits.mono (by simp))
    rw [d.renumber_zero]

/-- Renumbering is not seen: with bare placeholders always, and with numbered ones unless the caller
wrote what reads as a placeholder, a query compiles to what it would in a single pass, or is refused
for the same fault. -/
theorem Query.compile_eq_compileInPlace (d : Dialect) (q : Query) :
    (d.placeholders = .positional → q.compile d = q.compileInPlace d) ∧
      ∀ m, d.MarkedBy m → q.meets (.tokenFree d) → q.values.length ≤ maxNumber →
        q.compile d = q.compileInPlace d := by
  have agree : d.Readable → q.meets (.tokenFree d) → d.Carries q.values.length →
      q.compile d = q.compileInPlace d := by
    intro readable met carries
    refine ((q.emitter_raisedTo readable met).run_zero rfl fun f written => ?_).symm
    rw [(q.emitter_binds d).params written]
    exact carries
  constructor
  · intro positional
    refine agree (Or.inl positional) (Query.meets_of_forall ?_ ?_ ?_ ?_ q) (Or.inl positional)
    all_goals
      intros
      simp [TextRules.tokenFree, Dialect.holdsToken, Dialect.spoilsTemplate, positional]
  · exact fun m marked met fits => agree (Or.inr ⟨m, marked⟩) met (Or.inr fits)

theorem Query.goodOrders_inPlace :
    goodOrders.compile .generic = goodOrders.compileInPlace .generic ∧
      goodOrders.compile .postgres = goodOrders.compileInPlace .postgres :=
  ⟨(compile_eq_compileInPlace .generic goodOrders).1 rfl,
    (compile_eq_compileInPlace .postgres goodOrders).2 '$' Dialect.postgres_markedBy
      (by decide +kernel) (by decide +kernel)⟩

end SqlSelect
