import SqlSelect.Proofs.Compositional
import SqlSelect.Proofs.Parameters
import SqlSelect.Proofs.QuoteFree
import SqlSelect.Proofs.Spelling
set_option autoImplicit false

/-! The identifiers in a compiled statement. What stands between quotes is what the caller named, in order,
but for one thing: renumbering is textual, so a name in a subquery that reads as a placeholder is raised
with the placeholders. -/
namespace SqlSelect

open Emitter Placeholder Text

/-- The regions between the quotes of the dialect, with doubled quotes made single. -/
def Dialect.regions (d : Dialect) (s : String) : Option (List String) :=
  (Text.regions d.quote s.toList).map (List.map String.ofList)

/-- No text of the caller's own but names, and operators without quotes. -/
def TextRules.rawFree (d : Dialect) : TextRules where
  name _ := true
  operator s := d.quote ∉ s.toList
  template _ := false
  rawColumn _ _ := false

namespace Dialect

variable {d : Dialect} (standard : d.quote = '"')

theorem regions_of_not_mem {s : String} (free : d.quote ∉ s.toList) : d.regions s = some [] := by
  rw [regions, Text.regions_of_not_mem free]
  rfl

include standard

theorem regions_append {s t : String} {first second : List String}
    (readFirst : d.regions s = some first) (readSecond : d.regions t = some second)
    (seam : closes s ∨ opens t) : d.regions (s ++ t) = some (first ++ second) := by
  obtain ⟨xs, front, rfl⟩ := Option.map_eq_some_iff.1 readFirst
  obtain ⟨ys, back, rfl⟩ := Option.map_eq_some_iff.1 readSecond
  rw [regions, String.toList_append, Text.regions_append front back (apart_of_seam standard seam)]
  exact congrArg some List.map_append

theorem regions_quoted (r : Reference) :
    d.regions (String.ofList (r.quoted d.quote)) = some (r.quotedNames.map String.ofList) := by
  have read : Text.regions d.quote (r.quoted d.quote) = some r.quotedNames :=
    Reference.regions_quoted (by rw [standard]; decide) (by rw [standard]; decide)
      (by rw [standard]; decide) r
  rw [regions, String.toList_ofList, read]
  rfl

end Dialect

theorem Dialect.MarkedBy.regions_renumber {d : Dialect} {m : Char} (marked : d.MarkedBy m)
    (offset : Nat) (s : String) :
    d.regions (d.renumber offset s) = (d.regions s).map (List.map (d.renumber offset)) := by
  rw [regions, regions, marked.renumber_eq, String.toList_ofList,
    regions_shiftChars marked.notQuote marked.quoteNotDigit, Option.map_map, Option.map_map]
  congr 1
  funext found
  simp only [Function.comp, List.map_map]
  refine List.map_congr_left fun region _ => ?_
  rw [Function.comp, Function.comp, marked.renumber_eq, String.toList_ofList]

namespace Emitter

/-- Whatever is written binds so many values and has the names between its quotes. -/
def Spells (d : Dialect) (e : Emitter) (s : Spelling) : Prop :=
  ∀ bound f, e.run bound = .ok f →
    f.params.length = s.count ∧ d.regions f.text = some (s.names bound)

variable {d : Dialect} {m : Char} {a b : Emitter} {x y : Spelling}

theorem spells_fail (e : Fault) : (fail e).Spells d x := by
  intro bound f written
  cases written

theorem spells_text {s : String} {names : List String} (read : d.regions s = some names) :
    (text s).Spells d (.plain names) := by
  intro bound f written
  cases written
  exact ⟨rfl, read⟩

theorem spells_free {s : String} (free : d.quote ∉ s.toList) : (text s).Spells d (.plain []) :=
  spells_text (Dialect.regions_of_not_mem free)

theorem spells_reference (standard : d.quote = '"') (r : Reference) :
    (text (String.ofList (r.quoted d.quote))).Spells d (.ofReference r) :=
  spells_text (Dialect.regions_quoted standard r)

theorem spells_parameter (marked : d.MarkedBy m) (v : Value) :
    (parameter d v).Spells d (.values 1) := by
  intro bound f written
  cases written
  exact ⟨rfl, Dialect.regions_of_not_mem (marked.quote_not_mem_placeholder (bound + 1))⟩

theorem Spells.guarded (inner : a.Spells d x) (fault : Option Fault) :
    (guarded fault a).Spells d x := by
  cases fault with
  | none => exact inner
  | some e => exact spells_fail e

theorem Spells.append (standard : d.quote = '"') (first : a.Spells d x) (second : b.Spells d y)
    (seam : a.Closes ∨ b.Opens) : (a ++ b).Spells d (x.append y) := by
  intro bound f written
  obtain ⟨u, v, hu, hv, rfl⟩ := (run_append_eq_ok_iff ..).1 written
  obtain ⟨countFirst, namesFirst⟩ := first bound u hu
  obtain ⟨countSecond, namesSecond⟩ := second _ v hv
  have seam' : closes u.text ∨ opens v.text :=
    seam.imp (fun closed => closed _ u hu) fun opened => opened _ v hv
  rw [countFirst] at namesSecond
  constructor
  · rw [Fragment.append_params, List.length_append, countFirst, countSecond, Spelling.append]
  · exact Dialect.regions_append standard namesFirst namesSecond seam'

/-- A statement that takes its place has its names raised with its placeholders. -/
theorem Spells.embedded (marked : d.MarkedBy m) (check : Except Fault Unit) (inner : a.Spells d x) :
    (embedded d check a).Spells d (x.spliced d.renumber) := by
  intro bound f written
  obtain ⟨-, g, hg, rfl⟩ := (run_embedded_eq_ok_iff ..).1 written
  obtain ⟨count, names⟩ := inner 0 g hg
  refine ⟨count, ?_⟩
  rw [marked.regions_renumber, names]
  rfl

end Emitter

section Statements

variable {d : Dialect} {m : Char} (marked : d.MarkedBy m) (standard : d.quote = '"')

include marked standard

theorem spells_compositional :
    Compositional (.rawFree d) d (Spelling.reading d.renumber) (Spells d) := by
  constructor
  case keyword => exact fun word => spells_free (Dialect.not_mem_of_isKeyword standard word)
  case constant => exact fun holds => spells_free (Dialect.quote_not_mem_constant standard holds)
  case number => exact fun n => spells_free (Dialect.quote_not_mem_number standard n)
  case operator => exact fun free => spells_free (by simpa [TextRules.rawFree] using free)
  case column => exact fun _ => spells_reference standard _
  case table => exact fun _ => spells_reference standard _
  case identifier => exact fun _ => spells_reference standard _
  case parameter => exact spells_parameter marked
  case template =>
    intro sql absent
    cases absent
  case guarded => exact fun fault a x inner => inner.guarded fault
  case joined => exact fun kind a x inner => inner.guarded (d.joinFault kind)
  case append => exact Spells.append standard

/-- The names of a query stand between the quotes of its statement. -/
theorem Query.emitter_spells (q : Query) (met : q.meets (.rawFree d)) :
    (q.emitter d).Spells d (q.read (Spelling.reading d.renumber)) := by
  refine (spells_compositional marked standard).query (embedded d) ?_ ?_ q met
  · intro before sql absent
    cases absent
  · exact fun q inner => inner.embedded marked q.ready

end Statements

/-- What stands between the quotes of a compiled statement are the caller's names in order, those in a
subquery renumbered at every level around it; renumbering the statement renumbers each of them; and if
no name in a subquery reads as a placeholder, they are the names as given. -/
theorem Query.regions_eq_names {d : Dialect} {m : Char} (marked : d.MarkedBy m)
    (standard : d.quote = '"') {q : Query} {f : Fragment} (met : q.meets (.rawFree d))
    (compiled : q.compile d = .ok f) :
    d.regions f.text = some (q.names d.renumber) ∧
      (∀ offset, d.regions (d.renumber offset f.text) =
        some ((q.names d.renumber).map (d.renumber offset))) ∧
      ((∀ s ∈ q.subqueries, ∀ name ∈ s.givenNames, d.holdsToken name = false) →
        d.regions f.text = some q.givenNames) := by
  have names : d.regions f.text = some (q.names d.renumber) :=
    (q.emitter_spells marked standard met 0 f compiled).2
  refine ⟨names, fun offset => ?_, fun free => ?_⟩
  · rw [marked.regions_renumber, names]
    rfl
  · have readable : d.Readable := Or.inr ⟨m, marked⟩
    have untouched : q.names d.renumber = q.givenNames :=
      Query.names_eq_givenNames fun s inside name given bound =>
        readable.renumber_of_no_token bound (free s inside name given)
    rw [names, untouched]

/-- A column and, behind one value, a subquery with a column. -/
def Query.selectExists (outer inner : String) : Query :=
  { empty with
    action := some .select
    columns := [.name outer]
    source := some (.table "t")
    conditions := [⟨.and, .comparison "a" "=" (.int 1)⟩,
      ⟨.and, .subquery "" "EXISTS" { empty with
        action := some .select
        columns := [.name inner]
        source := some (.table "u") }⟩] }

theorem Query.selectExists_written :
    ∃ f, (selectExists "id" "$1").compile .postgres = .ok f ∧
      f.text = "SELECT \"id\" FROM \"t\" WHERE \"a\" = $1 AND EXISTS (SELECT \"$2\" FROM \"u\")" :=
  exists_fragment_of_text (by decide +kernel)

theorem Query.selectExists_regions :
    (∃ f, (selectExists "id" "$1").compile .postgres = .ok f ∧
      Dialect.postgres.regions f.text = some ["id", "t", "a", "$2", "u"]) ∧
    ∃ f, (selectExists "$1" "id").compile .postgres = .ok f ∧
      Dialect.postgres.regions f.text = some ["$1", "t", "a", "id", "u"] := by
  obtain ⟨f, first, -⟩ := selectExists_written
  obtain ⟨g, second, -⟩ : ∃ f, (selectExists "$1" "id").compile .postgres = .ok f ∧
      f.text = "SELECT \"$1\" FROM \"t\" WHERE \"a\" = $1 AND EXISTS (SELECT \"id\" FROM \"u\")" :=
    exists_fragment_of_text (by decide +kernel)
  constructor
  · have altered := (regions_eq_names Dialect.postgres_markedBy rfl (by decide +kernel) first).1
    exact ⟨f, first, altered.trans (by decide +kernel)⟩
  · have kept := (regions_eq_names Dialect.postgres_markedBy rfl (by decide +kernel) second).2.2
      (by decide +kernel)
    exact ⟨g, second, kept.trans (by decide +kernel)⟩

/-- A name that reads as a placeholder does not survive a subquery behind a value. -/
theorem Query.selectExists_alters_name :
    (selectExists "id" "$1").meets (.rawFree .postgres) ∧
      ∃ f, (selectExists "id" "$1").compile .postgres = .ok f ∧
        f.text = "SELECT \"id\" FROM \"t\" WHERE \"a\" = $1 AND EXISTS (SELECT \"$2\" FROM \"u\")" ∧
        (selectExists "id" "$1").givenNames = ["id", "t", "a", "$1", "u"] ∧
        Dialect.postgres.regions f.text ≠ some (selectExists "id" "$1").givenNames := by
  obtain ⟨f, compiled, text⟩ := selectExists_written
  refine ⟨by decide +kernel, f, compiled, text, by decide +kernel, ?_⟩
  rw [text]
  decide +kernel

end SqlSelect
