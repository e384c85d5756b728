import SqlSelect.Proofs.Rewriting
import SqlSelect.Proofs.TokenFree
import SqlSelect.Proofs.Template
set_option autoImplicit false

/-! One query in several dialects. Unless the caller wrote what reads as a placeholder, what is written in
another dialect is what is written for PostgreSQL with every placeholder spelled anew: each subquery is
renumbered as often in the one as in the other, or never needs to be. -/
namespace SqlSelect

open Emitter Placeholder Text

/-- A text written for PostgreSQL with every placeholder replaced by what `write` makes of its digits. -/
def respelled (write : List Char → List Char) (s : String) : String :=
  String.ofList (rewritten ['$'] write s.toList)

/-- No `$` and no `?` stands right before a decimal digit. -/
def isNumberFree (s : String) : Bool :=
  !Dialect.postgres.holdsToken s && !Dialect.sqlite.holdsToken s

def TextRules.numberFree : TextRules where
  name := isNumberFree
  operator := isNumberFree
  template sql := isNumberFree sql.text
  rawColumn _ sql := isNumberFree sql.text

theorem isNumberFree_iff {s : String} :
    isNumberFree s ↔ Dialect.postgres.holdsToken s = false ∧ Dialect.sqlite.holdsToken s = false := by
  simp only [isNumberFree, Bool.and_eq_true, Bool.not_eq_true']

namespace Dialect

theorem postgres_accepts_isNumberFree : postgres.Accepts isNumberFree := by
  have own : postgres.Accepts fun s => !postgres.holdsToken s :=
    Readable.accepts (Or.inr ⟨_, postgres_markedBy⟩)
  have other : sqlite.Accepts fun s => !sqlite.holdsToken s :=
    Readable.accepts (Or.inr ⟨_, sqlite_markedBy⟩)
  exact own.and (other.of_quote_eq rfl)

theorem postgres_holdsToken_eq (s : String) : postgres.holdsToken s = Placeholder.holdsToken ['$'] s.toList :=
  postgres_markedBy.holdsToken_eq s

theorem sqlite_holdsToken_eq (s : String) : sqlite.holdsToken s = Placeholder.holdsToken ['?'] s.toList :=
  sqlite_markedBy.holdsToken_eq s

/-- The dialect writes `write` of the digits where PostgreSQL writes `$` and the digits, and it does not
matter whether placeholders are raised before or after they are respelled. -/
structure Respells (d : Dialect) (write : List Char → List Char) : Prop where
  quote : d.quote = postgres.quote
  placeholder : ∀ n, (d.placeholder n).toList = write (Nat.toDigits 10 n)
  renumber : ∀ offset {s}, sqlite.holdsToken s = false →
    d.renumber offset (respelled write s) = respelled write (postgres.renumber offset s)

theorem sqlite_respells : sqlite.Respells fun digits => '?' :: digits where
  quote := rfl
  placeholder n := by rw [sqlite_markedBy.placeholder_eq, String.toList_ofList]
  renumber offset s free := by
    rw [sqlite_holdsToken_eq] at free
    have raised := shiftChars_rewritten (m := '$') (by decide) (by decide) offset free
    rw [sqlite_markedBy.renumber_eq, postgres_markedBy.renumber_eq, respelled, respelled,
      String.toList_ofList, String.toList_ofList, raised]

theorem generic_respells : generic.Respells fun _ => ['?'] where
  quote := rfl
  placeholder _ := by simp [placeholder, generic]
  renumber offset s _ := by
    have raised := rewritten_shiftChars (m := '$') (s := s.toList) (by decide) ['?'] offset
    rw [postgres_markedBy.renumber_eq, respelled, respelled, String.toList_ofList, raised]
    rfl

example : respelled (fun digits => '?' :: digits) "a = $1 OR b = $12" = "a = ?1 OR b = ?12" := by
  decide +kernel
example : respelled (fun _ => ['?']) "a = $1 OR b = $12" = "a = ? OR b = ?" := by
  decide +kernel

end Dialect

section Texts

variable {write : List Char → List Char} {s t : String}

theorem respelled_of_isNumberFree (free : isNumberFree s) : respelled write s = s := by
  obtain ⟨free, -⟩ := isNumberFree_iff.1 free
  rw [Dialect.postgres_holdsToken_eq] at free
  rw [respelled, rewritten_of_not_holdsToken write free, String.ofList_toList]

theorem respelled_append (seam : closes s ∨ opens t) :
    respelled write (s ++ t) = respelled write s ++ respelled write t := by
  have apart := Dialect.postgres_markedBy.apart_of_seam seam
  rw [respelled, String.toList_append, rewritten_append apart, String.ofList_append]
  rfl

theorem sqlite_holdsToken_append (seam : closes s ∨ opens t) :
    Dialect.sqlite.holdsToken (s ++ t) = (Dialect.sqlite.holdsToken s || Dialect.sqlite.holdsToken t) := by
  have apart := Dialect.sqlite_markedBy.apart_of_seam seam
  simp only [Dialect.sqlite_holdsToken_eq, String.toList_append]
  exact holdsToken_append (apart.imp_right fun closed c last => (closed c last).1)

theorem sqlite_holdsToken_renumber (offset : Nat) :
    Dialect.sqlite.holdsToken (Dialect.postgres.renumber offset s) = Dialect.sqlite.holdsToken s := by
  rw [Dialect.sqlite_holdsToken_eq, Dialect.sqlite_holdsToken_eq, Dialect.postgres_markedBy.renumber_eq,
    String.toList_ofList]
  exact holdsToken_shiftChars (by decide) (by decide) (by decide) offset s.toList

end Texts

namespace Emitter

variable {d : Dialect} {write : List Char → List Char}

theorem mark_not_mem_placeholder (n : Nat) : '?' ∉ (Dialect.postgres.placeholder n).toList := by
  rw [Dialect.postgres_markedBy.placeholder_eq, String.toList_ofList, List.mem_cons, not_or]
  refine ⟨by decide, fun inside => ?_⟩
  have digit := Nat.isDigit_of_mem_toDigits (by decide) (by decide) inside
  exact absurd digit (by decide)

/-- Every marker of a template is gone once it is filled for PostgreSQL. -/
theorem mark_not_mem_filled (template : List Char) (bound : Nat) :
    '?' ∉ filled .postgres template bound := by
  induction template generalizing bound with
  | nil => exact List.not_mem_nil
  | cons c rest ih =>
    by_cases marker : c = '?'
    · rw [filled, if_pos marker, List.mem_append, not_or]
      exact ⟨mark_not_mem_placeholder _, ih _⟩
    · rw [filled, if_neg marker, List.mem_cons, not_or]
      exact ⟨Ne.symm marker, ih _⟩

theorem rewritten_filled (h : d.Respells write) {template : List Char} {bound : Nat}
    (free : holdsToken ['$'] template = false) (open' : holdsToken ['?'] template = false) :
    rewritten ['$'] write (filled .postgres template bound) = filled d template bound := by
  induction template generalizing bound with
  | nil => exact rewritten_of_not_holdsToken write rfl
  | cons c rest ih =>
    have starts := startsWithDigit_filled Dialect.postgres_markedBy rest
    rw [holdsToken_cons, Bool.or_eq_false_iff, Bool.and_eq_false_iff, decide_eq_false_iff_not]
      at free open'
    by_cases marker : c = '?'
    · have ended : startsWithDigit (filled .postgres rest (bound + 1)) = false :=
        (starts _).trans (open'.1.resolve_left fun other => other marker)
      rw [filled, if_pos marker, filled, if_pos marker, h.placeholder,
        Dialect.postgres_markedBy.placeholder_eq, String.toList_ofList, rewritten_placeholder _ ended,
        ih free.2 open'.2]
    · have apart : c ≠ '$' ∨ startsWithDigit (filled .postgres rest bound) = false :=
        free.1.imp_right (starts _).trans
      rw [filled, if_neg marker, filled, if_neg marker, rewritten_cons_plain apart, ih free.2 open'.2]

end Emitter

/-- What is written for PostgreSQL, and the same in another spelling. The first text holds no `?` before a
digit, so that no placeholder of the second is read where there was none. -/
structure Fragment.RespelledTo (write : List Char → List Char) (f g : Fragment) : Prop where
  params : f.params = g.params
  free : Dialect.sqlite.holdsToken f.text = false
  text : g.text = respelled write f.text

/-- Whatever the second emitter writes, the first one writes in the spelling of PostgreSQL. -/
def Emitter.Covers (write : List Char → List Char) (a a' : Emitter) : Prop :=
  ∀ bound g, a'.run bound = .ok g → ∃ f, a.run bound = .ok f ∧ f.RespelledTo write g

namespace Emitter

variable {d : Dialect} {write : List Char → List Char} {a a' b b' : Emitter}

theorem covers_text {s : String} (free : isNumberFree s) : (text s).Covers write (text s) := by
  intro bound g written
  cases written
  exact ⟨_, rfl, rfl, (isNumberFree_iff.1 free).2, (respelled_of_isNumberFree free).symm⟩

theorem covers_verbatim {sql : RawSql} (free : isNumberFree sql.text) :
    (verbatim sql).Covers write (verbatim sql) := by
  intro bound g written
  cases written
  exact ⟨_, rfl, rfl, (isNumberFree_iff.1 free).2, (respelled_of_isNumberFree free).symm⟩

theorem covers_parameter (h : d.Respells write) (v : Value) :
    (parameter .postgres v).Covers write (parameter d v) := by
  intro bound g written
  cases written
  refine ⟨_, run_parameter .postgres v bound, rfl, ?_, ?_⟩
  · rw [Dialect.sqlite_holdsToken_eq]
    exact not_holdsToken_of_not_mem (mark_not_mem_placeholder _)
  · have none : rewritten ['$'] write [] = [] := rewritten_of_not_holdsToken write rfl
    have alone : rewritten ['$'] write ('$' :: Nat.toDigits 10 (bound + 1) ++ []) =
        write (Nat.toDigits 10 (bound + 1)) ++ rewritten ['$'] write [] :=
      rewritten_placeholder (bound + 1) rfl
    rw [none, List.append_nil, List.append_nil, ← h.placeholder] at alone
    rw [respelled, Dialect.postgres_markedBy.placeholder_eq, String.toList_ofList, alone,
      String.ofList_toList]

theorem covers_template (h : d.Respells write) {sql : RawSql} (free : isNumberFree sql.text) :
    (template .postgres sql).Covers write (template d sql) := by
  obtain ⟨free, open'⟩ := isNumberFree_iff.1 free
  rw [Dialect.postgres_holdsToken_eq] at free
  rw [Dialect.sqlite_holdsToken_eq] at open'
  intro bound g written
  rw [run_template] at written ⊢
  split at written
  · rename_i count
    cases written
    rw [if_pos count]
    refine ⟨_, rfl, rfl, ?_, ?_⟩
    · rw [Dialect.sqlite_holdsToken_eq, String.toList_ofList]
      exact not_holdsToken_of_not_mem (mark_not_mem_filled _ _)
    · rw [respelled, String.toList_ofList, rewritten_filled h free open']
  · cases written

theorem covers_fail (a : Emitter) (e : Fault) : a.Covers write (fail e) := by
  intro bound g written
  cases written

theorem Covers.guarded (inner : a.Covers write a') (fault : Option Fault) :
    (guarded fault a).Covers write (guarded fault a') := by
  cases fault with
  | none => exact inner
  | some e => exact covers_fail _ e

/-- PostgreSQL has every join. -/
theorem Covers.joined (inner : a.Covers write a') (kind : JoinKind) :
    (Emitter.guarded (Dialect.postgres.joinFault kind) a).Covers write
      (Emitter.guarded (d.joinFault kind) a') := by
  have supported : Dialect.postgres.joinFault kind = none := by
    cases kind <;> rfl
  rw [supported]
  cases d.joinFault kind with
  | none => exact inner
  | some e => exact covers_fail _ e

theorem Covers.append (first : a.Covers write a') (second : b.Covers write b')
    (seam : a.Closes ∨ b.Opens) : (a ++ b).Covers write (a' ++ b') := by
  intro bound g written
  obtain ⟨x', y', hx', hy', rfl⟩ := (run_append_eq_ok_iff ..).1 written
  obtain ⟨x, hx, left⟩ := first _ _ hx'
  rw [← left.params] at hy'
  obtain ⟨y, hy, right⟩ := second _ _ hy'
  have seam' : closes x.text ∨ opens y.text :=
    seam.imp (fun closed => closed _ _ hx) fun opened => opened _ _ hy
  refine ⟨x ++ y, (run_append_eq_ok_iff ..).2 ⟨x, y, hx, hy, rfl⟩, ?_, ?_, ?_⟩
  · rw [Fragment.append_params, Fragment.append_params, left.params, right.params]
  · rw [Fragment.append_text, sqlite_holdsToken_append seam', left.free, right.free, Bool.false_or]
  · rw [Fragment.append_text, Fragment.append_text, respelled_append seam', left.text, right.text]

theorem Covers.embedded (h : d.Respells write) (inner : a.Covers write a') (check : Except Fault Unit) :
    (embedded .postgres check a).Covers write (embedded d check a') := by
  intro bound g written
  obtain ⟨passed, y, hy, rfl⟩ := (run_embedded_eq_ok_iff ..).1 written
  obtain ⟨x, hx, alone⟩ := inner _ _ hy
  refine ⟨_, (run_embedded_eq_ok_iff ..).2 ⟨passed, x, hx, rfl⟩, alone.params, ?_, ?_⟩
  · rw [sqlite_holdsToken_renumber]
    exact alone.free
  · rw [alone.text]
    exact h.renumber bound alone.free

end Emitter

/-- A piece for PostgreSQL covers the same piece in the other dialect. -/
theorem covers_compositional {d : Dialect} {write : List Char → List Char} (h : d.Respells write) :
    Compositional .numberFree .postgres (reading d (embedded d)) (Covers write) :=
  .of_accepts (embedded d) h.quote Dialect.postgres_accepts_isNumberFree covers_text covers_text
    (covers_parameter h) (covers_template h) (fun fault _ _ inner => inner.guarded fault)
    (fun kind _ _ inner => inner.joined kind) Covers.append

/-- Whatever the other dialect writes of a query without numbers of the caller's own, PostgreSQL writes in its
own spelling, at every depth. -/
theorem Query.emitter_covers {d : Dialect} {write : List Char → List Char} (h : d.Respells write)
    (q : Query) (met : q.meets .numberFree) : (q.emitter .postgres).Covers write (q.emitter d) := by
  rw [emitter, emitter, ← Query.read_reading d]
  refine (covers_compositional h).query (embedded .postgres) (fun free => ?_) (fun q inner => ?_) q met
  · exact covers_verbatim free
  · exact inner.embedded h q.ready

end SqlSelect
