import SqlSelect.Proofs.Compositional
import SqlSelect.Proofs.Identifier
import SqlSelect.Proofs.Masking
import SqlSelect.Proofs.Outcome
import SqlSelect.Proofs.Parametric
set_option autoImplicit false

/-! The structure of a statement is not in the hands of its names. The skeleton of a statement has a quote
for every name, so that queries whose names are read alike compile to statements with one skeleton. -/
namespace SqlSelect

open Emitter Placeholder Text

/-- Queries with the same values, whose names are read alike. -/
def Likeness.masked : Likeness where
  name s t := mask s = mask t
  value := Eq
  isEmpty_eq := isEmpty_eq_of_mask
  isBlank_eq same := isEmpty_eq_of_mask (by rw [mask_trim, mask_trim, same])

theorem RawSql.Alike.eq {a b : RawSql} (same : a.Alike .masked b) : a = b := by
  obtain ⟨text, args⟩ := same
  rw [Likeness.masked, List.forall₂_eq_eq_eq] at args
  cases a
  cases b
  rw [RawSql.mk.injEq]
  exact ⟨text, args⟩

/-- No text of the caller's own but names has a quote in it. -/
def TextRules.quoteFree (d : Dialect) : TextRules where
  name _ := true
  operator s := d.quote ∉ s.toList
  template sql := d.quote ∉ sql.text.toList
  rawColumn _ sql := d.quote ∉ sql.text.toList

theorem TextRules.quoteFree_respect (d : Dialect) : (quoteFree d).Respect .masked where
  name _ _ := rfl
  template same free := by
    rw [quoteFree, decide_eq_true_eq] at free ⊢
    rwa [← same.text]
  rawColumn same free := by
    rw [quoteFree, decide_eq_true_eq] at free ⊢
    rwa [← same.text]

namespace Dialect

variable {d : Dialect}

/-- The text with every region between quotes shrunk to one quote, if each of them is closed. -/
def skeleton (d : Dialect) (s : String) : Option String :=
  (Text.skeleton d.quote s.toList).map String.ofList

theorem skeleton_of_not_mem {s : String} (free : d.quote ∉ s.toList) : d.skeleton s = some s := by
  rw [skeleton, Text.skeleton_of_not_mem free, Option.map_some, String.ofList_toList]

theorem skeleton_append (standard : d.quote = '"') {s t k l : String} (first : d.skeleton s = some k)
    (second : d.skeleton t = some l) (seam : closes s ∨ opens t) :
    d.skeleton (s ++ t) = some (k ++ l) := by
  obtain ⟨ks, front, rfl⟩ := Option.map_eq_some_iff.1 first
  obtain ⟨ls, back, rfl⟩ := Option.map_eq_some_iff.1 second
  rw [skeleton, String.toList_append, Text.skeleton_append front back (apart_of_seam standard seam)]
  exact congrArg some String.ofList_append

theorem skeleton_quoted (standard : d.quote = '"') (r : Reference) :
    d.skeleton (String.ofList (r.quoted d.quote)) = some (String.ofList (r.sketch d.quote)) := by
  have read : Text.skeleton d.quote (r.quoted d.quote) = some (r.sketch d.quote) :=
    Reference.skeleton_quoted (by rw [standard]; decide) (by rw [standard]; decide)
      (by rw [standard]; decide) r
  rw [skeleton, String.toList_ofList, read]
  rfl

theorem Readable.skeleton_renumber (readable : d.Readable) (offset : Nat) {s k : String}
    (read : d.skeleton s = some k) :
    d.skeleton (d.renumber offset s) = some (d.renumber offset k) := by
  rcases readable with positional | ⟨m, marked⟩
  · simpa [renumber, positional] using read
  · obtain ⟨ks, outline, rfl⟩ := Option.map_eq_some_iff.1 read
    rw [marked.renumber_eq, marked.renumber_eq, skeleton, String.toList_ofList, String.toList_ofList,
      skeleton_shiftChars marked.notQuote marked.quoteNotDigit, outline]
    rfl

end Dialect

/-- The skeleton of the one text is the other text, and the parameters are the same. -/
structure Fragment.Outlined (d : Dialect) (f g : Fragment) : Prop where
  text : d.skeleton f.text = some g.text
  params : f.params = g.params

namespace Emitter

/-- The reading that writes the skeleton of a statement. -/
def outline (d : Dialect) : Reading Emitter :=
  { reading d (embedded d) with
    column name := text (String.ofList ((Reference.ofColumn name.toList).sketch d.quote))
    table name := text (String.ofList ((Reference.ofTable name.toList).sketch d.quote))
    identifier name := text (String.ofList ((Reference.ofName name.toList).sketch d.quote)) }

variable {d : Dialect} {a a' b b' : Emitter}

theorem outlined_free {s : String} (free : d.quote ∉ s.toList) :
    (text s).Tracks (Fragment.Outlined d) (text s) :=
  fun _ => .given ⟨Dialect.skeleton_of_not_mem free, rfl⟩

theorem outlined_quoted (standard : d.quote = '"') (r : Reference) :
    (text (String.ofList (r.quoted d.quote))).Tracks (Fragment.Outlined d)
      (text (String.ofList (r.sketch d.quote))) :=
  fun _ => .given ⟨Dialect.skeleton_quoted standard r, rfl⟩

theorem outlined_template (readable : d.Readable) (standard : d.quote = '"') {sql : RawSql}
    (free : d.quote ∉ sql.text.toList) :
    (template d sql).Tracks (Fragment.Outlined d) (template d sql) := by
  intro bound
  rw [run_template]
  split
  · refine .given ⟨Dialect.skeleton_of_not_mem ?_, rfl⟩
    rw [String.toList_ofList]
    exact readable.quote_not_mem_filled standard free bound
  · exact .refused _

theorem Tracks.append_outlined (standard : d.quote = '"') (first : a.Tracks (Fragment.Outlined d) a')
    (second : b.Tracks (Fragment.Outlined d) b') (seam : a.Closes ∨ b.Opens) :
    (a ++ b).Tracks (Fragment.Outlined d) (a' ++ b') := by
  refine first.append (fun same => congrArg List.length same.params) second ?_
  intro bound bound' x y x' y' written written' left right
  have apart : closes x.text ∨ opens y.text :=
    seam.imp (fun closed => closed bound x written) fun opened => opened bound' y written'
  exact ⟨Dialect.skeleton_append standard left.text right.text apart,
    congrArg₂ (· ++ ·) left.params right.params⟩

theorem Tracks.embedded_outlined (readable : d.Readable) (inner : a.Tracks (Fragment.Outlined d) a')
    (check : Except Fault Unit) :
    (Emitter.embedded d check a).Tracks (Fragment.Outlined d) (Emitter.embedded d check a') :=
  inner.embedded (fun bound _ _ same => ⟨readable.skeleton_renumber bound same.text, same.params⟩) check

end Emitter

section Statements

variable {d : Dialect} (readable : d.Readable) (standard : d.quote = '"')

include readable standard

theorem outline_compositional :
    Compositional (.quoteFree d) d (outline d) (Tracks (Fragment.Outlined d)) where
  keyword word := outlined_free (Dialect.not_mem_of_isKeyword standard word)
  constant holds := outlined_free (Dialect.quote_not_mem_constant standard holds)
  number n := outlined_free (Dialect.quote_not_mem_number standard n)
  operator free := outlined_free (by simpa [TextRules.quoteFree] using free)
  column _ := outlined_quoted standard _
  table _ := outlined_quoted standard _
  identifier _ := outlined_quoted standard _
  parameter v bound := .given
    ⟨Dialect.skeleton_of_not_mem (readable.quote_not_mem_placeholder standard (bound + 1)), rfl⟩
  template free := outlined_template readable standard (by simpa [TextRules.quoteFree] using free)
  guarded fault _ _ inner := inner.guarded fault
  joined kind _ _ inner := inner.guarded (d.joinFault kind)
  append := Tracks.append_outlined standard

/-- A query without quotes in its raw texts and operators compiles to a statement with the skeleton that
is read from it, or both are refused for the same fault. -/
theorem Query.emitter_outlined (q : Query) (free : q.meets (.quoteFree d)) :
    (q.emitter d).Tracks (Fragment.Outlined d) (q.read (outline d)) := by
  refine (outline_compositional readable standard).query (embedded d) ?_ ?_ q free
  · intro before sql free bound
    refine .given ⟨Dialect.skeleton_of_not_mem ?_, rfl⟩
    simpa [TextRules.quoteFree] using free
  · exact fun q inner => inner.embedded_outlined readable q.ready

end Statements

/-- What is read of a query for its skeleton does not tell names apart that are read alike. -/
theorem outline_parametric (d : Dialect) : Parametric .masked (outline d) (outline d) Eq where
  append first second := by rw [first, second]
  keyword _ := rfl
  constant _ := rfl
  number _ := rfl
  operator _ := rfl
  column same := congrArg (text ∘ String.ofList) (Reference.sketch_ofColumn (mask_eq_iff.1 same))
  table same := congrArg (text ∘ String.ofList) (Reference.sketch_ofTable (mask_eq_iff.1 same))
  identifier same := congrArg (text ∘ String.ofList) (Reference.sketch_ofName (mask_eq_iff.1 same))
  parameter same := congrArg (parameter d) same
  template same := congrArg (template d) same.eq
  rawColumn same := congrArg verbatim same.eq
  guarded fault _ _ same := congrArg (Emitter.guarded fault) same
  joined kind _ _ same := congrArg (Emitter.guarded (d.joinFault kind)) same
  nested ready same := congrArg₂ (embedded d) ready same

/-- Queries whose names are read alike, with no quotes in their raw texts and operators, are refused for the
same fault or compile to statements with one skeleton and the same parameters. -/
theorem Query.compile_skeleton {d : Dialect} (readable : d.Readable) (standard : d.quote = '"')
    {q q' : Query} (alike : q.Alike .masked q') (free : q.meets (.quoteFree d)) :
    Outcome (fun f g => (∃ k, d.skeleton f.text = some k ∧ d.skeleton g.text = some k) ∧
      f.params = g.params) (q.compile d) (q'.compile d) := by
  -- Each statement is held against what is read for its skeleton, and that is the same for both.
  have free' : q'.meets (.quoteFree d) := (TextRules.quoteFree_respect d).query alike free
  have outlined := q.emitter_outlined readable standard free 0
  have outlined' := q'.emitter_outlined readable standard free' 0
  rw [← (outline_parametric d).read alike] at outlined'
  refine (outlined.meet outlined').imp fun _ _ both => ?_
  obtain ⟨h, left, right⟩ := both
  exact ⟨⟨h.text, left.text, right.text⟩, left.params.trans right.params.symm⟩

theorem Query.selectExists_alike {r : Likeness} {outer outer' inner inner' : String}
    (same : ∀ s, r.name s s) (value : r.value (.int 1) (.int 1)) (outers : r.name outer outer')
    (inners : r.name inner inner') :
    (selectExists outer inner).Alike r (selectExists outer' inner') := by
  refine .intro rfl rfl (.cons (.name outers) .nil) (.some (.table (same _))) .nil ?_ .nil rfl rfl
  exact .cons (.intro _ (.comparison _ (same _) value)) (.cons (.intro _ (.subquery _ (same _)
    (.intro rfl rfl (.cons (.name inners) .nil) (.some (.table (same _))) .nil .nil .nil rfl rfl))) .nil)

/-- Quotes, dashes, a semicolon and placeholders in names leave the structure as it was. -/
theorem Query.selectExists_skeleton :
    (∃ f g, (selectExists "order_id" "id").compile .postgres = .ok f ∧
      (selectExists "\";--\"$1\"" "$1").compile .postgres = .ok g ∧
      Dialect.postgres.skeleton f.text =
        some "SELECT \" FROM \" WHERE \" = $1 AND EXISTS (SELECT \" FROM \")" ∧
      Dialect.postgres.skeleton g.text = Dialect.postgres.skeleton f.text ∧ f.params = g.params) ∧
    ∃ f g, (selectExists "order_id" "id").compile .generic = .ok f ∧
      (selectExists "\";--\"$1\"" "?1").compile .generic = .ok g ∧
      Dialect.generic.skeleton g.text = Dialect.generic.skeleton f.text ∧ f.params = g.params := by
  constructor
  · obtain ⟨f, compiled, written⟩ : ∃ f, (selectExists "order_id" "id").compile .postgres = .ok f ∧
        f.text =
          "SELECT \"order_id\" FROM \"t\" WHERE \"a\" = $1 AND EXISTS (SELECT \"id\" FROM \"u\")" :=
      exists_fragment_of_text (by decide +kernel)
    have alike : (selectExists "order_id" "id").Alike .masked (selectExists "\";--\"$1\"" "$1") :=
      selectExists_alike (fun _ => rfl) rfl (mask_eq_iff.2 (by decide)) (mask_eq_iff.2 (by decide))
    obtain ⟨g, compiled', ⟨k, left, right⟩, params⟩ :=
      (compile_skeleton (Or.inr ⟨'$', Dialect.postgres_markedBy⟩) rfl alike
        (by decide +kernel)).exists_of_ok compiled
    refine ⟨f, g, compiled, compiled', ?_, right.trans left.symm, params⟩
    rw [written]
    decide +kernel
  · obtain ⟨f, compiled, -⟩ : ∃ f, (selectExists "order_id" "id").compile .generic = .ok f ∧
        f.text =
          "SELECT \"order_id\" FROM \"t\" WHERE \"a\" = ? AND EXISTS (SELECT \"id\" FROM \"u\")" :=
      exists_fragment_of_text (by decide +kernel)
    have alike : (selectExists "order_id" "id").Alike .masked (selectExists "\";--\"$1\"" "?1") :=
      selectExists_alike (fun _ => rfl) rfl (mask_eq_iff.2 (by decide)) (mask_eq_iff.2 (by decide))
    obtain ⟨g, compiled', ⟨k, left, right⟩, params⟩ :=
      (compile_skeleton (Or.inl rfl) rfl alike (by decide +kernel)).exists_of_ok compiled
    exact ⟨f, g, compiled, compiled', right.trans left.symm, params⟩

end SqlSelect
