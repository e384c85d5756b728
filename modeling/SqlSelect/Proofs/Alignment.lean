import SqlSelect.Proofs.Parameters
import SqlSelect.Proofs.Template
import SqlSelect.Proofs.TokenFree
set_option autoImplicit false

/-! Placeholders and parameters stay in step: read from left to right, the placeholders of a compiled
statement are one, two, three and so on up to the number of its parameters. -/
namespace SqlSelect

open Emitter Placeholder

/-- No caller's text but a raw column holds what reads as a placeholder, no template has a digit right
behind a marker, and the placeholders of a raw column number its own values on from the values of the
columns before it. -/
def TextRules.aligned (d : Dialect) : TextRules :=
  { tokenFree d with
    rawColumn := fun before sql =>
      d.numbersIn sql.text = (List.range' (before + 1) sql.args.length).map some }

namespace Emitter

/-- What is written after so many values reads on from them, if the numbers are in range. -/
def NumberedAt (d : Dialect) (bound : Nat) (e : Emitter) : Prop :=
  ∀ f, e.run bound = .ok f → bound + f.params.length ≤ maxNumber →
    d.numbersIn f.text = (List.range' (bound + 1) f.params.length).map some

/-- What is written reads on from any number of values. -/
def Numbered (d : Dialect) (e : Emitter) : Prop :=
  ∀ bound, e.NumberedAt d bound

variable {d : Dialect} {m : Char}

theorem NumberedAt.append (readable : d.Readable) {a b : Emitter} {bound : Nat}
    (first : a.NumberedAt d bound)
    (second : ∀ x, a.run bound = .ok x → b.NumberedAt d (bound + x.params.length))
    (seam : a.Closes ∨ b.Opens) : (a ++ b).NumberedAt d bound := by
  intro f written fits
  obtain ⟨x, y, hx, hy, rfl⟩ := (run_append_eq_ok_iff ..).1 written
  have seam' : Text.closes x.text ∨ Text.opens y.text :=
    seam.imp (fun closed => closed _ x hx) fun opened => opened _ y hy
  simp only [Fragment.append_text, Fragment.append_params, List.length_append] at fits ⊢
  rw [readable.numbersIn_append seam', first x hx (by omega), second x hx y hy (by omega),
    ← List.map_append, Nat.add_right_comm, List.range'_append_1]

theorem numbered_text {s : String} (readable : d.Readable) (free : d.holdsToken s = false) :
    (text s).Numbered d := by
  intro bound f written fits
  cases written
  exact readable.numbersIn_of_no_token free

theorem numbered_parameter (marked : d.MarkedBy m) (v : Value) : (parameter d v).Numbered d := by
  intro bound f written fits
  cases written
  exact marked.numbersIn_placeholder fits

theorem numbered_template (marked : d.MarkedBy m) {sql : RawSql}
    (free : d.spoilsTemplate sql.text = false) : (template d sql).Numbered d := by
  intro bound f written fits
  obtain ⟨free, open'⟩ := (marked.spoilsTemplate_eq_false _).1 free
  rw [run_template] at written
  split at written
  · rename_i count
    cases written
    change bound + sql.args.length ≤ maxNumber at fits
    rw [marked.numbersIn_eq, String.toList_ofList, numbers_filled marked free open' (by omega), count]
  · cases written

/-- A statement that reads from one on its own reads on from any number of values where it is put. -/
theorem NumberedAt.embedded (readable : d.Readable) {check : Except Fault Unit} {body : Emitter}
    (inner : body.NumberedAt d 0) : (embedded d check body).Numbered d := by
  intro bound f written fits
  obtain ⟨-, g, hg, rfl⟩ := (run_embedded_eq_ok_iff ..).1 written
  change bound + g.params.length ≤ maxNumber at fits
  have alone : d.numbersIn g.text = (List.range' 1 g.params.length).map some :=
    inner g hg (by omega)
  have inRange : ∀ n, some n ∈ d.numbersIn g.text → n + bound ≤ maxNumber := by
    intro n inside
    rw [alone, List.mem_map] at inside
    obtain ⟨k, range, same⟩ := inside
    rw [List.mem_range'_1] at range
    cases same
    omega
  calc
    d.numbersIn (d.renumber bound g.text)
    _ = (List.range' 1 g.params.length).map fun n => some (n + bound) := by
      rw [readable.numbersIn_renumber inRange, alone, List.map_map]
      rfl
    _ = ((List.range' 1 g.params.length).map (bound + ·)).map some := by
      rw [List.map_map]
      exact List.map_congr_left fun n _ => congrArg some (Nat.add_comm n bound)
    _ = (List.range' (bound + 1) g.params.length).map some := by
      rw [List.map_add_range']

end Emitter

theorem numbered_compositional {d : Dialect} {m : Char} (marked : d.MarkedBy m) :
    Compositional (.aligned d) d (reading d (embedded d)) fun e _ => e.Numbered d := by
  have readable : d.Readable := Or.inr ⟨m, marked⟩
  refine .of_tokenFree readable _ _ (numbered_text readable) (numbered_parameter marked)
    (numbered_template marked) ?fail ?append
  case fail =>
    intro e bound f written
    cases written
  case append =>
    exact fun first second seam bound =>
      (first bound).append readable (fun x _ => second (bound + x.params.length)) seam

/-- A list of columns is numbered on from the values before it. -/
theorem columns_numberedAt {d : Dialect} {m : Char} (marked : d.MarkedBy m) {columns : List Column}
    {before : Nat} (met : columnsMeet (.aligned d) before columns)
    (each : ∀ c ∈ columns, ∀ before, c.meets (.aligned d) before →
      (∃ sql, c = .raw sql) ∨ (c.emitterVia d (embedded d)).Numbered d) :
    (joined ", " (columns.map (Column.emitterVia d (embedded d)))).NumberedAt d before := by
  have readable : d.Readable := Or.inr ⟨m, marked⟩
  have comma := (numbered_compositional marked).keyword (s := ", ") (by decide)
  induction columns generalizing before with
  | nil => exact (numbered_compositional marked).empty before
  | cons c columns ih =>
    rw [columnsMeet, Bool.and_eq_true] at met
    have head : (c.emitterVia d (embedded d)).NumberedAt d before := by
      rcases each c List.mem_cons_self before met.1 with ⟨sql, rfl⟩ | numbered
      · intro f written fits
        cases written
        simpa [Column.meets, TextRules.aligned] using met.1
      · exact numbered before
    cases columns with
    | nil => exact head
    | cons next columns =>
      have tail := ih met.2 fun k inside => each k (List.mem_cons_of_mem c inside)
      have led := head.append readable (fun x _ => comma (before + x.params.length))
        (Or.inr (opens_text (by decide)))
      refine led.append readable ?_ (Or.inl (closes_append_text _ (by decide) (by decide)))
      intro f written
      obtain ⟨x, y, hx, hy, rfl⟩ := (run_append_eq_ok_iff ..).1 written
      cases hy
      rw [Fragment.append_params, List.append_nil, (c.emitter_binds d).params hx]
      exact tail

theorem Query.emitter_numberedAt {d : Dialect} {m : Char} (marked : d.MarkedBy m) (q : Query)
    (met : q.meets (.aligned d)) : (q.emitter d).NumberedAt d 0 := by
  have readable : d.Readable := Or.inr ⟨m, marked⟩
  have pieces := numbered_compositional marked
  refine pieces.nested (embedded d) (Q := fun q => (q.emitter d).NumberedAt d 0)
    (fun q inner => inner.embedded readable) ?_ q met
  intro q met columns rest
  rw [Query.emitter, Query.emitterVia_eq_afterColumns]
  refine (pieces.keyword (s := "SELECT ") (by decide) 0).append readable ?_
    (Or.inl (closes_text (by decide)))
  intro x written
  cases written
  refine NumberedAt.append readable ?_ (fun y _ => rest _)
    (Or.inr (opens_afterColumns d (embedded d) q))
  cases list : q.columns with
  | nil => exact pieces.keyword (s := "*") (by decide) 0
  | cons c more => exact columns_numberedAt marked (list ▸ met.columns) (list ▸ columns)

/-- Placeholder `k` binds parameter `k`: a compiled statement reads one, two, three and so on, through
groups and subqueries of any depth, until every parameter has had its placeholder. -/
theorem Query.placeholders_aligned {d : Dialect} {m : Char} (marked : d.MarkedBy m) {q : Query}
    {f : Fragment} (met : q.meets (.aligned d)) (compiled : q.compile d = .ok f)
    (fits : f.params.length ≤ maxNumber) :
    d.numbersIn f.text = (List.range' 1 f.params.length).map some :=
  q.emitter_numberedAt marked met f compiled (by omega)

/-- The placeholder of the raw column is the caller's own. -/
theorem Query.placeholders_aligned_goodOrders :
    ∃ f, { goodOrders with columns := [.raw ⟨"total + $1", [.int 5]⟩] }.compile .postgres = .ok f ∧
      Dialect.postgres.numbersIn f.text = [some 1, some 2, some 3, some 4] := by
  obtain ⟨f, compiled, text⟩ : ∃ f,
      { goodOrders with columns := [.raw ⟨"total + $1", [.int 5]⟩] }.compile .postgres = .ok f ∧
      f.text = "SELECT total + $1 FROM \"orders\" WHERE \"total\" > $2 AND \"customer\" IN " ++
        "(SELECT \"id\" FROM \"customers\" WHERE \"rank\" = $3) OR note = $4" :=
    exists_fragment_of_text (by decide +kernel)
  have params : f.params = [.int 5, .int 10, .int 1, .text "gift"] :=
    (Query.emitter_binds .postgres _).params compiled
  have aligned := placeholders_aligned Dialect.postgres_markedBy (by decide +kernel) compiled
    (by rw [params]; decide)
  rw [params] at aligned
  exact ⟨f, compiled, aligned⟩

end SqlSelect
