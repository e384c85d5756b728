import SqlSelect.Proofs.Outcome
import SqlSelect.Proofs.Parameters
import SqlSelect.Proofs.Parametric
import SqlSelect.Proofs.Template
set_option autoImplicit false

/-! Values stay out of the text. Queries that differ in nothing but their values compile to one text, and
their values are found at the same places among the parameters. -/
namespace SqlSelect

open Emitter

/-- Queries with the same names, whose values are related place by place. -/
def Likeness.ofValues (r : Value → Value → Prop) : Likeness where
  name := Eq
  value := r
  isEmpty_eq same := by rw [same]
  isBlank_eq same := by rw [same]

/-- One text, with parameters that are related place by place. -/
structure Fragment.SameText (r : Value → Value → Prop) (f g : Fragment) : Prop where
  text : f.text = g.text
  params : List.Forall₂ r f.params g.params

namespace Emitter

variable {r : Value → Value → Prop} {d : Dialect}

theorem tracks_text (s : String) : (text s).Tracks (Fragment.SameText r) (text s) :=
  fun _ => .given ⟨rfl, .nil⟩

theorem tracks_verbatim {a b : RawSql} (alike : a.Alike (.ofValues r) b) :
    (verbatim a).Tracks (Fragment.SameText r) (verbatim b) :=
  fun _ => .given ⟨alike.text, alike.args⟩

theorem tracks_parameter {v w : Value} (related : r v w) :
    (parameter d v).Tracks (Fragment.SameText r) (parameter d w) :=
  fun _ => .given ⟨rfl, .cons related .nil⟩

/-- A template is filled by the number of its arguments. -/
theorem tracks_template {a b : RawSql} (alike : a.Alike (.ofValues r) b) :
    (template d a).Tracks (Fragment.SameText r) (template d b) := by
  intro bound
  rw [run_template, run_template, alike.text, alike.args.length_eq]
  split
  · exact .given ⟨rfl, alike.args⟩
  · exact .refused _

end Emitter

/-- No piece of a statement tells its values. -/
theorem sameText_parametric (d : Dialect) (r : Value → Value → Prop) :
    Parametric (.ofValues r) (reading d (embedded d)) (reading d (embedded d))
      (Tracks (Fragment.SameText r)) where
  append first second :=
    first.append (fun same => same.params.length_eq) second fun _ _ left right =>
      ⟨congrArg₂ (· ++ ·) left.text right.text, List.rel_append left.params right.params⟩
  keyword s := tracks_text s
  constant _ := tracks_text _
  number _ := tracks_text _
  operator s := tracks_text s
  column same := same ▸ tracks_text _
  table same := same ▸ tracks_text _
  identifier same := same ▸ tracks_text _
  parameter := tracks_parameter
  template := tracks_template
  rawColumn := tracks_verbatim
  guarded fault _ _ inner := inner.guarded fault
  joined kind _ _ inner := inner.guarded (d.joinFault kind)
  nested {q q' a a'} ready inner := by
    have raised := inner.embedded (d := d)
      (fun bound _ _ same => ⟨congrArg (d.renumber bound) same.text, same.params⟩) q.ready
    change (embedded d q.ready a).Tracks _ (embedded d q'.ready a')
    rwa [← ready]

/-- Queries that differ only in their values are refused for the same fault or compile to the same text.
Each binds its own values in document order, and whatever relates the values place by place relates the
parameters in the same way. -/
theorem Query.compile_sameText {r : Value → Value → Prop} {q q' : Query}
    (alike : q.Alike (.ofValues r) q') (d : Dialect) :
    Outcome (fun f g => f.SameText r g ∧ f.params = q.values ∧ g.params = q'.values)
      (q.compile d) (q'.compile d) := by
  have tracked := (sameText_parametric d r).read alike 0
  rw [Query.read_reading, Query.read_reading] at tracked
  exact tracked.imp fun compiled compiled' same =>
    ⟨same, (q.emitter_binds d).params compiled, (q'.emitter_binds d).params compiled'⟩

/-- Customers of some ranks. -/
def Query.customersOf (ranks : List Value) : Query :=
  { empty with
    action := some .select
    columns := [.name "id"]
    source := some (.table "customers")
    conditions := [⟨.and, .membership "rank" false ranks⟩] }

/-- Orders above a total by customers of some ranks, or with a note. -/
def Query.ordersWhere (total : Value) (ranks : List Value) (note : Value) : Query :=
  { empty with
    action := some .select
    columns := [.name "id"]
    source := some (.table "orders")
    conditions := [⟨.and, .comparison "total" ">" total⟩,
      ⟨.and, .subquery "customer" "IN" (customersOf ranks)⟩, ⟨.or, .raw ⟨"note = ?", [note]⟩⟩] }

theorem Query.ordersWhere_alike {r : Value → Value → Prop} {total total' note note' : Value}
    {ranks ranks' : List Value} (totals : r total total') (lists : List.Forall₂ r ranks ranks')
    (notes : r note note') :
    (ordersWhere total ranks note).Alike (.ofValues r) (ordersWhere total' ranks' note') := by
  have inner : (customersOf ranks).Alike (.ofValues r) (customersOf ranks') :=
    .intro rfl rfl (.cons (.name rfl) .nil) (.some (.table rfl)) .nil
      (.cons (.intro _ (.membership _ rfl lists)) .nil) .nil rfl rfl
  refine .intro rfl rfl (.cons (.name rfl) .nil) (.some (.table rfl)) .nil ?_ .nil rfl rfl
  exact .cons (.intro _ (.comparison _ rfl totals)) (.cons (.intro _ (.subquery _ rfl inner))
    (.cons (.intro _ (.raw ⟨rfl, .cons notes .nil⟩)) .nil))

theorem Query.ordersWhere_sameText :
    ∃ f g, (ordersWhere (.int 10) [.int 1, .int 2] (.text "gift")).compile .postgres = .ok f ∧
      (ordersWhere .null [.array [.null], .blob []] (.text "' OR $1 --")).compile .postgres = .ok g ∧
      f.text = g.text ∧ g.params = [.null, .array [.null], .blob [], .text "' OR $1 --"] := by
  have written : ∃ f, (ordersWhere (.int 10) [.int 1, .int 2] (.text "gift")).compile .postgres =
      .ok f ∧ f.text = "SELECT \"id\" FROM \"orders\" WHERE \"total\" > $1 AND \"customer\" IN " ++
        "(SELECT \"id\" FROM \"customers\" WHERE \"rank\" IN ($2, $3)) OR note = $4" :=
    exists_fragment_of_text (by decide +kernel)
  obtain ⟨f, compiled, -⟩ := written
  have alike : (ordersWhere (.int 10) [.int 1, .int 2] (.text "gift")).Alike (.ofValues fun _ _ => True)
      (ordersWhere .null [.array [.null], .blob []] (.text "' OR $1 --")) :=
    ordersWhere_alike trivial (.cons trivial (.cons trivial .nil)) trivial
  obtain ⟨g, compiled', same, -, params⟩ := (compile_sameText alike .postgres).exists_of_ok compiled
  exact ⟨f, g, compiled, compiled', same.text, params⟩

end SqlSelect
