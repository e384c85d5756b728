import Mathlib.Data.List.Basic
import SqlSelect.Proofs.Collecting
import SqlSelect.Proofs.Compositional
import SqlSelect.Proofs.Template
set_option autoImplicit false

/-! The parameters of a statement are the values of its query in document order. The values are read off
the query alone, so they are the same in every dialect. -/
namespace SqlSelect

/-- What a part of a statement binds, and the queries nested in it. -/
structure Contents where
  values : List Value
  inner : List Query

namespace Contents

def empty : Contents := ⟨[], []⟩

def append (a b : Contents) : Contents :=
  ⟨a.values ++ b.values, a.inner ++ b.inner⟩

/-- Collects the values and the queries. -/
def reading : Reading Contents where
  append := append
  keyword _ := empty
  constant _ := empty
  number _ := empty
  operator _ := empty
  column _ := empty
  table _ := empty
  identifier _ := empty
  parameter v := ⟨[v], []⟩
  template sql := ⟨sql.args, []⟩
  rawColumn sql := ⟨sql.args, []⟩
  guarded _ contents := contents
  joined _ contents := contents
  nested q contents := ⟨contents.values, q :: contents.inner⟩

@[simp] theorem append_empty (a : Contents) : a.append empty = a := by
  simp [append, empty]

@[simp] theorem empty_append (a : Contents) : empty.append a = a := by
  simp [append, empty]

theorem eq_of_parts {a b : Contents} (values : a.values = b.values) (inner : a.inner = b.inner) :
    a = b := by
  cases a
  cases b
  exact congrArg₂ Contents.mk values inner

theorem reading_values : reading.Collects Contents.values where
  append _ _ := rfl
  keyword _ := rfl
  constant _ := rfl
  number _ := rfl
  operator _ := rfl
  identifier _ := rfl

theorem reading_inner : reading.Collects Contents.inner where
  append _ _ := rfl
  keyword _ := rfl
  constant _ := rfl
  number _ := rfl
  operator _ := rfl
  identifier _ := rfl

theorem read_sortKey (k : SortKey) : reading.sortKey k = ⟨k.values, []⟩ := by
  cases k <;> rfl

end Contents

open Contents

theorem readSubquery_contents {query : Option Query}
    (inner : ∀ q ∈ query, q.read reading = ⟨q.values, q.subqueries⟩) (label : String) :
    reading.labelled label (readSubquery reading query) =
      ⟨subqueryValues query, optionalSubqueries query⟩ := by
  cases query with
  | none => rfl
  | some q =>
    simp only [readSubquery, inner q rfl]
    change ((empty.append ⟨q.values, q :: q.subqueries⟩).append empty).append empty = _
    rw [append_empty, append_empty, empty_append]
    rfl

/-- What is collected are the values and the subqueries. -/
theorem Query.read_contents (q : Query) : q.read reading = ⟨q.values, q.subqueries⟩ := by
  refine Query.nested_induction
    (Q := fun q => q.read reading = ⟨q.values, q.subqueries⟩)
    (C := fun c => c.read reading = ⟨c.values, c.subqueries⟩)
    (S := fun s => s.read reading = ⟨s.values, s.subqueries⟩)
    (P := fun p => p.read reading = ⟨p.values, p.subqueries⟩)
    ?query (fun _ => rfl) (fun _ => rfl) ?columnSubquery (fun _ => rfl) (fun _ => rfl)
    ?sourceSubquery (fun _ _ _ => rfl) (fun _ _ _ _ => rfl) ?membership (fun _ _ => rfl)
    (fun _ => rfl) ?group ?subquery q
  case query =>
    intro q columns source conditions
    have rows : readSource reading q.source = ⟨sourceValues q.source, sourceSubqueries q.source⟩ := by
      cases given : q.source with
      | none => rfl
      | some s => exact source s given
    refine eq_of_parts ((reading_values.query q).trans ?_) ((reading_inner.query q).trans ?_)
    · have list := List.flatMap_congr fun c inside => congrArg Contents.values (columns c inside)
      have links := List.flatMap_congr fun c inside => congrArg Contents.values (conditions c inside)
      have joins : (q.joins.flatMap fun j => (reading.join j).values) = [] :=
        List.flatMap_eq_nil_iff.2 fun _ _ => rfl
      simp only [Query.values_eq, rows, list, links, joins, read_sortKey, List.append_nil]
    · have list := List.flatMap_congr fun c inside => congrArg Contents.inner (columns c inside)
      have links := List.flatMap_congr fun c inside => congrArg Contents.inner (conditions c inside)
      have joins : (q.joins.flatMap fun j => (reading.join j).inner) = [] :=
        List.flatMap_eq_nil_iff.2 fun _ _ => rfl
      have keys : (q.order.flatMap fun k => (reading.sortKey k).inner) = [] :=
        List.flatMap_eq_nil_iff.2 fun k _ => congrArg Contents.inner (read_sortKey k)
      simp only [Query.subqueries_eq, rows, list, links, joins, keys, List.append_nil]
  case columnSubquery => exact fun label query inner => readSubquery_contents inner label
  case sourceSubquery => exact fun label query inner => readSubquery_contents inner label
  case membership =>
    intro column negated members
    refine eq_of_parts ((reading_values.membership column negated members).trans ?_)
      ((reading_inner.membership column negated members).trans ?_)
    · exact List.flatMap_singleton' members
    · exact List.flatMap_eq_nil_iff.2 fun _ _ => rfl
  case group =>
    intro conditions inner
    rw [Predicate.values, Predicate.subqueries, conditionValues_eq_flatMap,
      conditionSubqueries_eq_flatMap]
    refine eq_of_parts ((reading_values.group conditions).trans ?_)
      ((reading_inner.group conditions).trans ?_)
    · exact List.flatMap_congr fun c inside => congrArg Contents.values (inner c inside)
    · exact List.flatMap_congr fun c inside => congrArg Contents.inner (inner c inside)
  case subquery =>
    intro column op query inner
    refine eq_of_parts ((reading_values.subquery column op query).trans ?_)
      ((reading_inner.subquery column op query).trans ?_)
    · rw [inner]
      rfl
    · rw [inner]
      rfl

namespace Emitter

/-- Whatever is written binds exactly these values, and the parameters of these queries, each compiled
alone, stand in it as blocks. -/
structure Binds (d : Dialect) (e : Emitter) (contents : Contents) : Prop where
  params : ∀ {bound f}, e.run bound = .ok f → f.params = contents.values
  blocks : ∀ {bound f}, e.run bound = .ok f →
    ∀ s ∈ contents.inner, ∃ g, s.compile d = .ok g ∧ g.params <:+: f.params

variable {d : Dialect}

theorem Binds.append {a b : Emitter} {x y : Contents} (first : a.Binds d x) (second : b.Binds d y) :
    (a ++ b).Binds d (x.append y) := by
  constructor
  · intro bound f written
    obtain ⟨u, v, hu, hv, rfl⟩ := (run_append_eq_ok_iff a b bound f).1 written
    rw [Fragment.append_params, first.params hu, second.params hv]
    rfl
  · intro bound f written s inside
    obtain ⟨u, v, hu, hv, rfl⟩ := (run_append_eq_ok_iff a b bound f).1 written
    rcases List.mem_append.1 inside with left | right
    · obtain ⟨g, compiled, block⟩ := first.blocks hu s left
      exact ⟨g, compiled, block.trans (List.prefix_append _ _).isInfix⟩
    · obtain ⟨g, compiled, block⟩ := second.blocks hv s right
      exact ⟨g, compiled, block.trans (List.suffix_append _ _).isInfix⟩

theorem binds_text (s : String) : (text s).Binds d Contents.empty :=
  ⟨fun written => by cases written; rfl, fun _ _ absent => nomatch absent⟩

theorem binds_verbatim (sql : RawSql) : (verbatim sql).Binds d ⟨sql.args, []⟩ :=
  ⟨fun written => by cases written; rfl, fun _ _ absent => nomatch absent⟩

theorem binds_parameter (v : Value) : (parameter d v).Binds d ⟨[v], []⟩ :=
  ⟨fun written => by cases written; rfl, fun _ _ absent => nomatch absent⟩

theorem binds_fail (e : Fault) (contents : Contents) : (fail e).Binds d contents :=
  ⟨fun written => (by cases written), fun written => (by cases written)⟩

theorem Binds.guarded {a : Emitter} {contents : Contents} (fault : Option Fault)
    (inner : a.Binds d contents) : (guarded fault a).Binds d contents := by
  cases fault with
  | none => exact inner
  | some e => exact binds_fail e contents

theorem binds_template (sql : RawSql) : (template d sql).Binds d ⟨sql.args, []⟩ := by
  refine ⟨fun written => ?_, fun _ _ absent => nomatch absent⟩
  rw [run_template] at written
  split at written
  · cases written
    rfl
  · cases written

theorem Binds.embedded {q : Query} {contents : Contents} (inner : (q.emitter d).Binds d contents) :
    (embedded d q.ready (q.emitter d)).Binds d ⟨contents.values, q :: contents.inner⟩ := by
  constructor
  · intro bound f written
    obtain ⟨-, g, compiled, rfl⟩ := (run_embedded_eq_ok_iff ..).1 written
    change g.params = _
    exact inner.params compiled
  · intro bound f written s inside
    obtain ⟨-, g, compiled, rfl⟩ := (run_embedded_eq_ok_iff ..).1 written
    rcases List.mem_cons.1 inside with rfl | deeper
    · exact ⟨g, compiled, List.infix_refl _⟩
    · exact inner.blocks compiled s deeper

end Emitter

open Emitter

/-- No demand at all. -/
def TextRules.any : TextRules where
  name _ := true
  operator _ := true
  template _ := true
  rawColumn _ _ := true

theorem Query.meets_any (q : Query) : q.meets .any :=
  q.meets_of_forall (fun _ => rfl) (fun _ => rfl) (fun _ => rfl) fun _ _ => rfl

theorem binds_compositional (d : Dialect) :
    Compositional .any d Contents.reading (Emitter.Binds d) where
  keyword _ := binds_text _
  constant _ := binds_text _
  number _ := binds_text _
  operator _ := binds_text _
  column _ := binds_text _
  table _ := binds_text _
  identifier _ := binds_text _
  parameter := binds_parameter
  template _ := binds_template _
  guarded fault _ _ inner := inner.guarded fault
  joined kind _ _ inner := inner.guarded (d.joinFault kind)
  append first second _ := first.append second

theorem Query.emitter_binds (d : Dialect) (q : Query) :
    (q.emitter d).Binds d ⟨q.values, q.subqueries⟩ := by
  rw [← q.read_contents]
  exact (binds_compositional d).query (embedded d) (fun _ => binds_verbatim _)
    (fun _ inner => inner.embedded) q q.meets_any

theorem Column.emitter_binds (d : Dialect) (c : Column) :
    (c.emitterVia d (embedded d)).Binds d ⟨c.values, c.subqueries⟩ := by
  cases c with
  | name name => exact binds_text _
  | raw sql => exact binds_verbatim sql
  | subquery label query =>
    rw [Column.values, Column.subqueries, ← readSubquery_contents (fun q _ => q.read_contents) label]
    refine (binds_compositional d).labelled rfl fun q _ => ?_
    rw [q.read_contents]
    exact (q.emitter_binds d).embedded

/-- A compiled statement binds the values of its query in document order, none lost, doubled or moved,
and each subquery's parameters stand in it in one piece. -/
theorem Query.params_eq_values {d : Dialect} {q : Query} {f : Fragment}
    (compiled : q.compile d = .ok f) :
    f.params = q.values ∧
      ∀ s ∈ q.subqueries, ∃ g, s.compile d = .ok g ∧ g.params <:+: f.params :=
  ⟨(q.emitter_binds d).params compiled, (q.emitter_binds d).blocks compiled⟩

theorem exists_fragment_of_text {written : Except Fault Fragment} {s : String}
    (text : written.toOption.map Fragment.text = some s) : ∃ f, written = .ok f ∧ f.text = s := by
  cases written with
  | error e => cases text
  | ok f => exact ⟨f, rfl, Option.some.inj text⟩

/-- Orders of good customers: a subquery between two conditions with values of their own. -/
def Query.goodOrders : Query :=
  { empty with
    action := some .select
    columns := [.name "id"]
    source := some (.table "orders")
    conditions := [⟨.and, .comparison "total" ">" (.int 10)⟩,
      ⟨.and, .subquery "customer" "IN" { empty with
        action := some .select
        columns := [.name "id"]
        source := some (.table "customers")
        conditions := [⟨.and, .comparison "rank" "=" (.int 1)⟩] }⟩,
      ⟨.or, .raw ⟨"note = ?", [.text "gift"]⟩⟩] }

theorem Query.goodOrders_written :
    ∃ f, goodOrders.compile .postgres = .ok f ∧
      f.text = "SELECT \"id\" FROM \"orders\" WHERE \"total\" > $1 AND \"customer\" IN " ++
        "(SELECT \"id\" FROM \"customers\" WHERE \"rank\" = $2) OR note = $3" :=
  exists_fragment_of_text (by decide +kernel)

theorem Query.goodOrders_params :
    ∃ f, goodOrders.compile .postgres = .ok f ∧ f.params = [.int 10, .int 1, .text "gift"] := by
  obtain ⟨f, compiled, -⟩ := goodOrders_written
  exact ⟨f, compiled, (params_eq_values compiled).1⟩

end SqlSelect
