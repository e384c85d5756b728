import SqlSelect.Proofs.Frame
import SqlSelect.Proofs.Parameters
import SqlSelect.Proofs.Quoting
import SqlSelect.Proofs.Seam
import SqlSelect.Proofs.Unquoting
import SqlSelect.Query.Build
set_option autoImplicit false

/-! Columns selected through a map from inputs to names. The statement names the columns behind the inputs
that are in the map, and nothing else, so long as there is one; with no input in the map it selects every
column. -/
namespace SqlSelect

open Emitter

namespace Reference

variable {quote c : Char}

theorem mem_quotedPart {part : List Char} (inside : c ∈ quotedPart quote part) : c = quote ∨ c ∈ part := by
  unfold quotedPart at inside
  split at inside
  · rename_i star
    exact Or.inr (star ▸ inside)
  · rw [List.mem_append, List.mem_cons, List.mem_singleton] at inside
    rcases inside with (opening | within) | closing
    · exact Or.inl opening
    · obtain ⟨k, among, doubled⟩ := List.mem_flatMap.1 within
      split at doubled
      · exact Or.inl (by simpa using doubled)
      · exact Or.inr (List.mem_singleton.1 doubled ▸ among)
    · exact Or.inl closing

theorem mem_quotedParts {parts : List (List Char)} (inside : c ∈ quotedParts quote parts) :
    c = quote ∨ c = '.' ∨ ∃ part ∈ parts, c ∈ part := by
  induction parts with
  | nil => cases inside
  | cons part parts ih =>
    have first : c ∈ quotedPart quote part → c = quote ∨ c = '.' ∨ ∃ p ∈ part :: parts, c ∈ p :=
      fun inPart => (mem_quotedPart inPart).imp_right fun among => Or.inr ⟨part, List.mem_cons_self, among⟩
    by_cases last : parts = []
    · subst last
      rw [quotedParts_singleton] at inside
      exact first inside
    · rw [quotedParts_cons _ last, List.mem_append, List.mem_cons] at inside
      rcases inside with inPart | dot | later
      · exact first inPart
      · exact Or.inr (Or.inl dot)
      · refine (ih later).imp_right fun rest => rest.imp_right ?_
        rintro ⟨p, among, within⟩
        exact ⟨p, List.mem_cons_of_mem part among, within⟩

/-- Quoting brings in no characters but quotes, dots and the word that sets off an alias. -/
theorem mem_quoted {r : Reference} (inside : c ∈ r.quoted quote) :
    c = quote ∨ c ∈ ['.', ' ', 'A', 'S', ' '] ∨ ∃ name ∈ r.names, c ∈ name := by
  unfold quoted at inside
  rcases List.mem_append.1 inside with inParts | inAlias
  · rcases mem_quotedParts inParts with same | dot | ⟨part, among, within⟩
    · exact Or.inl same
    · exact Or.inr (Or.inl (List.mem_cons.2 (Or.inl dot)))
    · exact Or.inr (Or.inr ⟨part, List.mem_append_left _ among, within⟩)
  · cases label : r.aliasName with
    | none =>
      rw [label] at inAlias
      cases inAlias
    | some aliasName =>
      rw [label] at inAlias
      rcases List.mem_append.1 inAlias with word | within
      · exact Or.inr (Or.inl (List.mem_cons_of_mem '.' word))
      · have named : aliasName ∈ r.names := List.mem_append_right _ (by simp [label])
        exact (mem_quotedPart within).imp_right fun among => Or.inr ⟨aliasName, named, among⟩

end Reference

namespace Dialect

variable (d : Dialect)

/-- The names as a list of quoted columns. -/
def columnList (names : List String) : String :=
  ", ".intercalate (names.map fun n => d.quoteColumn (Text.trim n))

variable {d}

theorem star_not_mem_quoteColumn (wild : d.quote ≠ '*') {name : String} (free : '*' ∉ name.toList) :
    '*' ∉ (d.quoteColumn name).toList := by
  intro inside
  rw [quoteColumn, String.toList_ofList] at inside
  rcases Reference.mem_quoted inside with same | other | ⟨part, among, within⟩
  · exact wild same.symm
  · exact absurd other (by decide)
  · exact free ((Reference.infix_of_mem_ofColumn among).subset within)

theorem star_not_mem_columnList (wild : d.quote ≠ '*') {names : List String}
    (free : ∀ n ∈ names, '*' ∉ n.toList) : '*' ∉ (d.columnList names).toList := by
  unfold columnList
  induction names with
  | nil => exact List.not_mem_nil
  | cons name names ih =>
    obtain ⟨first, others⟩ := List.forall_mem_cons.1 free
    have trimmed : '*' ∉ (Text.trim name).toList := by
      rw [Text.trim, String.toList_ofList]
      exact fun inside => first ((Text.trimChars_infix _).subset inside)
    have here := star_not_mem_quoteColumn wild trimmed
    cases names with
    | nil => simpa using here
    | cons next names =>
      have later := ih others
      rw [List.map_cons] at later
      rw [List.map_cons, List.map_cons, String.intercalate_cons_cons, String.toList_append,
        String.toList_append, List.mem_append, List.mem_append, not_or, not_or]
      exact ⟨⟨here, by decide⟩, later⟩

end Dialect

theorem run_joined_text (separator : String) (texts : List String) (bound : Nat) :
    (joined separator (texts.map text)).run bound = .ok ⟨separator.intercalate texts, []⟩ := by
  induction texts with
  | nil => rfl
  | cons s texts ih =>
    cases texts with
    | nil =>
      rw [String.intercalate_singleton]
      rfl
    | cons next texts =>
      rw [List.map_cons] at ih
      rw [String.intercalate_cons_cons]
      exact (run_append_eq_ok_iff ..).2 ⟨⟨s ++ separator, []⟩, _, rfl, ih, rfl⟩

/-- Names are written as a list of columns, and for none of them a wildcard. -/
theorem run_columnsClause_names (d : Dialect) (embed : Embedding) (names : List String) (bound : Nat) :
    (columnsClause ((names.map fun n => Column.name (Text.trim n)).map
      (Column.emitterVia d embed))).run bound =
      .ok ⟨if names.isEmpty then "*" else d.columnList names, []⟩ := by
  have texts : (names.map fun n => Column.name (Text.trim n)).map (Column.emitterVia d embed) =
      (names.map fun n => d.quoteColumn (Text.trim n)).map text := by
    simp only [List.map_map]
    rfl
  rw [texts]
  cases names with
  | nil => rfl
  | cons name names => exact run_joined_text ", " _ bound

theorem run_afterColumns_table {d : Dialect} {embed : Embedding} {q : Query} {table : String}
    (source : q.source = some (.table table)) (named : (Text.trim table).isEmpty = false)
    (bare : q.joins = [] ∧ q.conditions = [] ∧ q.order = [] ∧ q.limit = none ∧ q.offset = none)
    (bound : Nat) :
    (q.afterColumns d embed).run bound = .ok ⟨" FROM " ++ d.quoteTable table, []⟩ := by
  obtain ⟨joins, conditions, order, limit, offset⟩ := bare
  have noJoins : joinsClause d [] = empty := rfl
  have noConditions : whereClause [] = empty := rfl
  have noOrder : orderClause d [] = empty := rfl
  have noNumber : ∀ keyword, numberClause keyword none = empty := fun _ => rfl
  rw [Query.afterColumns, source, joins, conditions, order, limit, offset, sourceEmitter,
    Source.emitterVia, named, List.map_nil, noJoins, noConditions, noOrder, noNumber, noNumber]
  simp only [append_empty]
  rfl

namespace Query

theorem select_of_named {names : List String} (named : ∀ n ∈ names, (Text.trim n).isEmpty = false)
    (q : Query) :
    q.select names =
      { q.selecting with columns := q.columns ++ names.map fun n => .name (Text.trim n) } := by
  have written : ∀ n ∈ names, Text.trim n ≠ "" := by
    intro n inside blank
    have given := named n inside
    rw [blank] at given
    cases given
  have all : Call.writtenNames names = names.map Text.trim := by
    refine List.filter_eq_self.2 fun n inside => ?_
    obtain ⟨name, among, rfl⟩ := List.mem_map.1 inside
    exact decide_eq_true (written name among)
  have passes : ¬ ∃ name ∈ names, Text.trim name = "" := fun ⟨name, among, blank⟩ =>
    written name among blank
  rw [Call.select_names, all, List.map_map, if_neg passes, Option.or_none]
  rfl

variable {d : Dialect} {inputs : List String} {permitted : List (String × String)} {table : String}

theorem mem_permitted_of_mem_permittedNames {name : String}
    (inside : name ∈ Call.permittedNames inputs permitted) : ∃ input, (input, name) ∈ permitted := by
  obtain ⟨input, -, found⟩ := List.mem_filterMap.1 inside
  obtain ⟨before, after, split, -⟩ := List.lookup_eq_some_iff.1 found
  exact ⟨input, split ▸ List.mem_append_right before List.mem_cons_self⟩

theorem permittedNames_eq_nil_iff :
    Call.permittedNames inputs permitted = [] ↔ ∀ input ∈ inputs, List.lookup input permitted = none :=
  List.filterMap_eq_nil_iff

theorem permittedNames_ne_nil_iff :
    Call.permittedNames inputs permitted ≠ [] ↔
      ∃ input ∈ inputs, (List.lookup input permitted).isSome := by
  simp only [ne_eq, permittedNames_eq_nil_iff, not_forall, exists_prop, Option.isSome_iff_ne_none]

/-- The columns behind the permitted inputs, trimmed, are all that is selected. -/
theorem selectPermitted_of_named (named : ∀ e ∈ permitted, (Text.trim e.2).isEmpty = false) :
    (empty.withDialect d).selectPermitted inputs permitted =
      { empty with
        dialect := some d
        action := some .select
        columns := (Call.permittedNames inputs permitted).map fun n => .name (Text.trim n) } := by
  refine select_of_named (fun n inside => ?_) (empty.withDialect d)
  obtain ⟨input, among⟩ := mem_permitted_of_mem_permittedNames inside
  exact named (input, n) among

/-- A query for the columns behind the permitted inputs, out of a table. -/
def permittedSelection (d : Dialect) (inputs : List String) (permitted : List (String × String))
    (table : String) : Query :=
  ((empty.withDialect d).selectPermitted inputs permitted).fromTable table

theorem build_permittedSelection (named : ∀ e ∈ permitted, (Text.trim e.2).isEmpty = false) :
    (permittedSelection d inputs permitted table).build =
      if (Text.trim table).isEmpty then .error .emptyTable
      else
        let names := Call.permittedNames inputs permitted
        .ok ⟨"SELECT " ++ (if names.isEmpty then "*" else d.columnList names) ++ " FROM " ++
          d.quoteTable (Text.trim table), []⟩ := by
  rw [permittedSelection, selectPermitted_of_named named, fromTable, checkName]
  split
  · rfl
  · rename_i given
    simp only [Bool.not_eq_true] at given
    -- The table was trimmed when it was set, and is trimmed again when it is written.
    have rest : (Text.trim (Text.trim table)).isEmpty = false := by rw [Text.trim_trim, given]
    have columns := run_columnsClause_names d (embedded d) (Call.permittedNames inputs permitted) 0
    change Query.compile d _ = _
    rw [compile, Query.emitter, emitterVia_eq_afterColumns]
    refine (run_append_eq_ok_iff ..).2 ⟨_, _, rfl, (run_append_eq_ok_iff ..).2 ⟨_, _, columns,
      run_afterColumns_table rfl rest ⟨rfl, rfl, rfl, rfl, rfl⟩ _, rfl⟩, ?_⟩
    simp only [String.append_assoc]
    rfl

/-- What is selected is a list of the columns behind the permitted inputs, in the order of the inputs and
without a wildcard, exactly when some input is permitted. When none is, every column is selected. -/
theorem permittedSelection_lists_iff (wild : d.quote ≠ '*')
    (named : ∀ e ∈ permitted, (Text.trim e.2).isEmpty = false) (free : ∀ e ∈ permitted, '*' ∉ e.2.toList)
    {f : Fragment} (built : (permittedSelection d inputs permitted table).build = .ok f) :
    ∃ list, f.text = "SELECT " ++ list ++ " FROM " ++ d.quoteTable (Text.trim table) ∧ f.params = [] ∧
      ((list = d.columnList (Call.permittedNames inputs permitted) ∧ '*' ∉ list.toList) ↔
        ∃ input ∈ inputs, (List.lookup input permitted).isSome) ∧
      ((∀ input ∈ inputs, List.lookup input permitted = none) → list = "*") := by
  have starFree : '*' ∉ (d.columnList (Call.permittedNames inputs permitted)).toList := by
    refine Dialect.star_not_mem_columnList wild fun n inside => ?_
    obtain ⟨input, among⟩ := mem_permitted_of_mem_permittedNames inside
    exact free (input, n) among
  rw [build_permittedSelection named] at built
  split at built
  · cases built
  · cases built
    refine ⟨_, rfl, rfl, ?_⟩
    rw [← permittedNames_ne_nil_iff, ← permittedNames_eq_nil_iff]
    by_cases nothing : Call.permittedNames inputs permitted = []
    · rw [nothing]
      have star : '*' ∈ "*".toList := by decide
      exact ⟨⟨fun listed => absurd star listed.2, fun some => absurd rfl some⟩, fun _ => rfl⟩
    · have some : (Call.permittedNames inputs permitted).isEmpty = false := by simpa using nothing
      rw [some]
      exact ⟨⟨fun _ => nothing, fun _ => ⟨rfl, starFree⟩⟩, fun absent => absurd absent nothing⟩

/-- The one input that is in the map is selected, the other is not. -/
theorem permittedSelection_name :
    ∃ f, (permittedSelection .postgres ["name", "password"] [("name", "full_name")] "users").build =
        .ok f ∧
      f.text = "SELECT \"full_name\" FROM \"users\"" := by
  obtain ⟨f, built⟩ : ∃ f,
      (permittedSelection .postgres ["name", "password"] [("name", "full_name")] "users").build =
        .ok f := by
    rw [build_permittedSelection (by decide +kernel), if_neg (by decide +kernel)]
    exact ⟨_, rfl⟩
  obtain ⟨list, text, -, listed, -⟩ :=
    permittedSelection_lists_iff (by decide) (by decide +kernel) (by decide) built
  have column : list = "\"full_name\"" :=
    (listed.2 ⟨"name", by decide, by decide⟩).1.trans (by decide +kernel)
  have quoted : Dialect.postgres.quoteTable (Text.trim "users") = "\"users\"" := by decide +kernel
  rw [column, quoted] at text
  exact ⟨f, built, text.trans (by decide)⟩

/-- With no input in the map the statement selects what is not in it. -/
theorem permittedSelection_password :
    ∃ f, (permittedSelection .postgres ["password"] [("name", "full_name")] "users").build = .ok f ∧
      f.text = "SELECT * FROM \"users\"" :=
  exists_fragment_of_text (by decide +kernel)

end Query

end SqlSelect
