import SqlSelect.Proofs.Write
set_option autoImplicit false

/-! What one step changes about a query, and what it leaves alone. A step is for one clause; a list that it adds
to keeps what it held. A step that fails leaves its clause as it was, but for those that go on with the part of
their input that is good. -/
namespace SqlSelect

namespace Query

/-- All clauses but one are the same, whatever the fault. What makes a query a SELECT goes with the columns. -/
structure SameBut (k : Clause) (q p : Query) : Prop where
  dialect : k ≠ .dialect → p.dialect = q.dialect
  action : k ≠ .columns → p.action = q.action
  columns : k ≠ .columns → p.columns = q.columns
  source : k ≠ .source → p.source = q.source
  joins : k ≠ .joins → p.joins = q.joins
  conditions : k ≠ .conditions → p.conditions = q.conditions
  order : k ≠ .order → p.order = q.order
  limit : k ≠ .limit → p.limit = q.limit
  offset : k ≠ .offset → p.offset = q.offset

theorem sameBut_noting (k : Clause) (q : Query) (fault : Option Fault) : q.SameBut k (q.noting fault) where
  dialect _ := rfl
  action _ := rfl
  columns _ := rfl
  source _ := rfl
  joins _ := rfl
  conditions _ := rfl
  order _ := rfl
  limit _ := rfl
  offset _ := rfl

theorem SameBut.refl (k : Clause) (q : Query) : q.SameBut k q := by
  have same := sameBut_noting k q none
  rwa [noting_none] at same

theorem SameBut.trans {k : Clause} {q p r : Query} (first : q.SameBut k p) (second : p.SameBut k r) :
    q.SameBut k r where
  dialect other := (second.dialect other).trans (first.dialect other)
  action other := (second.action other).trans (first.action other)
  columns other := (second.columns other).trans (first.columns other)
  source other := (second.source other).trans (first.source other)
  joins other := (second.joins other).trans (first.joins other)
  conditions other := (second.conditions other).trans (first.conditions other)
  order other := (second.order other).trans (first.order other)
  limit other := (second.limit other).trans (first.limit other)
  offset other := (second.offset other).trans (first.offset other)

theorem sameBut_put (q : Query) (w : Write) : q.SameBut w.clause (q.put w) := by
  cases w
  all_goals
    constructor
    all_goals
      intro other
      first
        | rfl
        | exact absurd rfl other

theorem sameBut_foldl_put {k : Clause} {ws : List Write} (own : ∀ w ∈ ws, w.clause = k) (q : Query) :
    q.SameBut k (ws.foldl put q) :=
  List.foldlRecOn ws put (motive := q.SameBut k) (.refl k q)
    fun p same w written => same.trans (own w written ▸ sameBut_put p w)

/-- The lists of a query go on from where those of another end. -/
structure ExtendedBy (q p : Query) : Prop where
  columns : q.columns <+: p.columns
  joins : q.joins <+: p.joins
  conditions : q.conditions <+: p.conditions
  order : q.order <+: p.order

theorem ExtendedBy.refl (q : Query) : q.ExtendedBy q where
  columns := List.prefix_refl _
  joins := List.prefix_refl _
  conditions := List.prefix_refl _
  order := List.prefix_refl _

theorem ExtendedBy.trans {q p r : Query} (first : q.ExtendedBy p) (second : p.ExtendedBy r) :
    q.ExtendedBy r where
  columns := first.columns.trans second.columns
  joins := first.joins.trans second.joins
  conditions := first.conditions.trans second.conditions
  order := first.order.trans second.order

theorem extendedBy_put (q : Query) (w : Write) : q.ExtendedBy (q.put w) := by
  cases w
  all_goals
    constructor
    all_goals
      first
        | exact List.prefix_refl _
        | exact List.prefix_append _ _

theorem extendedBy_foldl_put (ws : List Write) (q : Query) : q.ExtendedBy (ws.foldl put q) :=
  List.foldlRecOn ws put (motive := q.ExtendedBy) (.refl q)
    fun p extended w _ => extended.trans (extendedBy_put p w)

end Query

theorem accepted_of_refusal {α : Type} {w : α → Write} {input : Except Fault α}
    (refused : refusal input ≠ none) : accepted w input = [] := by
  cases input with
  | ok a => exact absurd rfl refused
  | error e => rfl

namespace Call

/-- A step changes the clause that it is for, and no other. -/
theorem apply_sameBut (c : Call) (q : Query) : q.SameBut c.clause (apply q c) := by
  rw [apply_eq]
  have written := Query.sameBut_foldl_put (clause_of_mem_writes c q.dialect) q
  exact written.trans (Query.sameBut_noting _ _ _)

/-- A step takes nothing out of a list, and changes nothing in it. -/
theorem apply_extendedBy (c : Call) (q : Query) : q.ExtendedBy (apply q c) := by
  have written := Query.extendedBy_foldl_put (c.writes q.dialect) q
  rw [apply_eq]
  exact ⟨written.columns, written.joins, written.conditions, written.order⟩

theorem fault_apply (c : Call) (q : Query) : (apply q c).fault = q.fault.or c.failure := by
  rw [apply_eq, Query.noting, Query.fault_foldl_put]

/-- Whether a step, when it fails, has taken the part of its input that is good. -/
def salvages : Call → Bool
  | select _ | selectPermitted _ _ | whereGroup _ _ => true
  | _ => false

theorem writes_of_failure {c : Call} (strict : c.salvages = false) (fails : c.failure ≠ none)
    (d : Option Dialect) : c.writes d = if c.clause = .columns then [.action] else [] := by
  cases c with
  | select names => cases strict
  | selectPermitted inputs permitted => cases strict
  | whereGroup link chain => cases strict
  | dialect _ | selectSubquery _ _ | fromSubquery _ _ | limit _ | offset _ | whereRaw _ _ _ =>
    rw [failure] at fails
    exact absurd rfl fails
  | selectRaw text args =>
    rw [failure] at fails
    rw [writes, accepted_of_refusal fails]
    rfl
  | whereSubquery link column op chain =>
    cases chain with
    | none => rfl
    | some chain =>
      rw [failure] at fails
      rw [writes, accepted_of_refusal fails]
      rfl
  | _ =>
    rw [failure] at fails
    rw [writes, accepted_of_refusal fails]
    rfl

/-- A step that fails and salvages nothing notes the failure. For the SELECT list it makes the query a SELECT all
the same. -/
theorem apply_of_failure {c : Call} (strict : c.salvages = false) (fails : c.failure ≠ none) (q : Query) :
    apply q c =
      { q with
        action := if c.clause = .columns then some .select else q.action
        fault := q.fault.or c.failure } := by
  rw [apply_eq, writes_of_failure strict fails]
  split <;> rfl

section Names

/-- The names that are not blank, trimmed. -/
def writtenNames (names : List String) : List String :=
  (names.map Text.trim).filter (· ≠ "")

theorem writtenNames_cons (name : String) (names : List String) :
    writtenNames (name :: names) =
      if Text.trim name = "" then writtenNames names else Text.trim name :: writtenNames names := by
  rw [writtenNames, List.map_cons, List.filter_cons, ← writtenNames]
  by_cases blank : Text.trim name = ""
  · simp only [blank, ne_eq, not_true_eq_false, decide_false, Bool.false_eq_true, if_false, if_true]
  · simp only [blank, ne_eq, not_false_eq_true, decide_true, if_true, if_false]

theorem nameWrites_eq (names : List String) :
    nameWrites names = ((writtenNames names).map Column.name).map Write.column := by
  induction names with
  | nil => rfl
  | cons name names ih =>
    rw [nameWrites, List.flatMap_cons, ← nameWrites, ih, writtenNames_cons]
    by_cases blank : Text.trim name = ""
    · rw [checkName_of_blank _ blank, if_pos blank]
      rfl
    · rw [checkName_of_written _ blank, if_neg blank]
      rfl

theorem nameFailure_eq (names : List String) :
    nameFailure names = if ∃ name ∈ names, Text.trim name = "" then some .emptyColumn else none := by
  induction names with
  | nil => rfl
  | cons name names ih =>
    rw [nameFailure, List.findSome?_cons, ← nameFailure, ih]
    simp only [List.mem_cons, exists_eq_or_imp]
    by_cases blank : Text.trim name = ""
    · rw [checkName_of_blank _ blank, if_pos (Or.inl blank)]
      rfl
    · rw [checkName_of_written _ blank]
      simp only [blank, false_or]
      rfl

theorem foldl_put_columns (columns : List Column) (q : Query) :
    (columns.map Write.column).foldl Query.put q = { q with columns := q.columns ++ columns } := by
  induction columns generalizing q with
  | nil =>
    cases q
    simp only [List.map_nil, List.foldl_nil, List.append_nil]
  | cons c columns ih =>
    rw [List.map_cons, List.foldl_cons, ih]
    simp only [Query.put, Query.addColumn, List.append_assoc, List.singleton_append]

/-- Selecting by name takes the names that are not blank, in their order, and fails for a blank one among them. -/
theorem select_names (names : List String) (q : Query) :
    q.select names =
      { q with
        action := some .select
        columns := q.columns ++ (writtenNames names).map .name
        fault := q.fault.or
          (if ∃ name ∈ names, Text.trim name = "" then some .emptyColumn else none) } := by
  rw [select_eq, List.foldl_cons, nameWrites_eq, foldl_put_columns, nameFailure_eq]
  rfl

/-- The names that a step selects columns by. -/
def names? : Call → Option (List String)
  | select names => some names
  | selectPermitted inputs permitted => some (permittedNames inputs permitted)
  | _ => none

theorem apply_of_names? {c : Call} {names : List String} (byName : c.names? = some names) (q : Query) :
    apply q c = q.select names := by
  cases c with
  | select _ | selectPermitted _ _ =>
    cases byName
    rfl
  | _ => cases byName

end Names

/-- A group brings its conditions, if it has any, and its fault, whatever else its chain has done. -/
theorem apply_whereGroup (link : Link) (chain : List Call) (q : Query) :
    apply q (.whereGroup link chain) =
      { q with
        conditions := q.conditions ++
          if (applyAll q.scope chain).conditions.isEmpty then []
          else [⟨link, .group (applyAll q.scope chain).conditions⟩]
        fault := q.fault.or (applyAll q.scope chain).fault } := by
  rw [apply, Query.whereGroup_eq, Query.addGroup_eq]
  split
  · rw [List.append_nil]
    rfl
  · rfl

/-- Nothing that is put into a SELECT makes it anything else. -/
theorem action_foldl_put_of_select (ws : List Write) {q : Query} (selects : q.action = some .select) :
    (ws.foldl Query.put q).action = some .select := by
  refine List.foldlRecOn ws Query.put (motive := fun p => p.action = some .select) selects ?_
  intro p selects w _
  cases w with
  | action => rfl
  | _ => exact selects

/-- Each step for the SELECT list, one that fails included, begins by making the query a SELECT. -/
theorem writes_of_columns {c : Call} (columns : c.clause = .columns) (d : Option Dialect) :
    ∃ ws, c.writes d = .action :: ws := by
  cases c with
  | select _ | selectRaw _ _ | selectSubquery _ _ | selectPermitted _ _ =>
    rw [writes]
    exact ⟨_, rfl⟩
  | _ => cases columns

theorem action_apply (c : Call) (q : Query) :
    (apply q c).action = if c.clause = .columns then some .select else q.action := by
  split
  · rename_i columns
    obtain ⟨ws, written⟩ := writes_of_columns columns q.dialect
    have selects := action_foldl_put_of_select ws (q := q.selecting) rfl
    rw [apply_eq, written]
    exact selects
  · rename_i other
    exact (apply_sameBut c q).action other

/-- What a step may make of a query. -/
structure Effect (c : Call) (q p : Query) : Prop where
  frame : q.SameBut c.clause p
  /-- The first fault stays. -/
  fault : p.fault = q.fault.or c.failure
  action : p.action = if c.clause = .columns then some .select else q.action
  lists : q.ExtendedBy p
  dialect : ∀ d, c = .dialect d → p.dialect = some d
  limit : ∀ n, c = .limit n → p.limit = some n
  offset : ∀ n, c = .offset n → p.offset = some n
  source : c.clause = .source → c.failure = none →
    ∃ s, c.writes q.dialect = [.source s] ∧ p.source = some s
  refused : c.failure ≠ none → c.salvages = false → p = { q with action := p.action, fault := p.fault }
  names : ∀ names, c.names? = some names →
    p.columns = q.columns ++ (writtenNames names).map .name ∧
      c.failure = if ∃ name ∈ names, Text.trim name = "" then some .emptyColumn else none
  group : ∀ link chain, c = .whereGroup link chain →
    p.conditions = q.conditions ++
        (if (applyAll q.scope chain).conditions.isEmpty then []
          else [⟨link, .group (applyAll q.scope chain).conditions⟩]) ∧
      c.failure = (applyAll q.scope chain).fault

theorem writes_of_source {c : Call} (rows : c.clause = .source) (passes : c.failure = none)
    (d : Option Dialect) : ∃ s, c.writes d = [.source s] := by
  have checked : ∀ {α : Type} {w : α → Source} {input : Except Fault α}, refusal input = none →
      ∃ s, accepted (fun a => .source (w a)) input = [.source s] := by
    intro α w input passes
    cases input with
    | ok a => exact ⟨w a, rfl⟩
    | error e => cases passes
  cases c with
  | fromSubquery label chain => exact ⟨_, rfl⟩
  | fromTable _ | fromRaw _ _ | fromPermitted _ _ =>
    rw [failure] at passes
    rw [writes]
    exact checked passes
  | _ => cases rows

theorem failure_of_names? {c : Call} {names : List String} (byName : c.names? = some names) :
    c.failure = nameFailure names := by
  cases c with
  | select _ | selectPermitted _ _ =>
    cases byName
    rfl
  | _ => cases byName

theorem failure_whereGroup (link : Link) (chain : List Call) (q : Query) :
    (whereGroup link chain).failure = (applyAll q.scope chain).fault :=
  (fault_applyAll chain q.scope).symm

theorem applyAll_extendedBy (chain : List Call) (q : Query) : q.ExtendedBy (applyAll q chain) := by
  induction chain generalizing q with
  | nil => exact .refl q
  | cons c chain ih =>
    rw [applyAll]
    exact (apply_extendedBy c q).trans (ih _)

/-- Every step has its effect on its own clause and on the fault, and on nothing else, and no chain of steps ever
changes or takes out what a list holds. -/
theorem apply_effect (q : Query) :
    (∀ c, Effect c q (apply q c)) ∧ ∀ chain, q.ExtendedBy (applyAll q chain) := by
  refine ⟨fun c => ?_, fun chain => applyAll_extendedBy chain q⟩
  constructor
  case frame => exact apply_sameBut c q
  case fault => exact fault_apply c q
  case action => exact action_apply c q
  case lists => exact apply_extendedBy c q
  case dialect =>
    rintro d rfl
    rfl
  case limit =>
    rintro n rfl
    rfl
  case offset =>
    rintro n rfl
    rfl
  case source =>
    intro rows passes
    obtain ⟨s, written⟩ := writes_of_source rows passes q.dialect
    refine ⟨s, written, ?_⟩
    rw [apply_eq, written]
    rfl
  case refused =>
    intro fails strict
    rw [apply_of_failure strict fails]
  case names =>
    intro names byName
    rw [apply_of_names? byName, select_names, failure_of_names? byName, nameFailure_eq]
    exact ⟨rfl, rfl⟩
  case group =>
    rintro link chain rfl
    rw [apply_whereGroup]
    exact ⟨rfl, failure_whereGroup link chain q⟩

/-- A blank name is passed over, a blank table is not set, and a group goes in although a step in it failed. -/
theorem apply_effect_blank :
    (apply .empty (.select [" id", " "])).columns = [.name "id"] ∧
      apply .empty (.fromTable " ") = { Query.empty with fault := some .emptyTable } ∧
      (apply .empty (.whereGroup .or [.whereRaw .and "a" [], .fromTable " "])).conditions =
        [⟨.or, .group [⟨.and, .raw ⟨"a", []⟩⟩]⟩] := by
  have effect := (apply_effect .empty).1
  have blank : (fromTable " ").failure = some .emptyTable := by decide +kernel
  have written : writtenNames [" id", " "] = ["id"] := by decide +kernel
  refine ⟨?_, ?_, ?_⟩
  · have named := ((effect (.select [" id", " "])).names _ rfl).1
    rwa [written] at named
  · have fails : (fromTable " ").failure ≠ none := by
      rw [blank]
      nofun
    rw [(effect (.fromTable " ")).refused fails rfl, (effect (.fromTable " ")).action,
      (effect (.fromTable " ")).fault, blank]
    rfl
  · have inner : (applyAll Query.empty.scope [.whereRaw .and "a" [], .fromTable " "]).conditions =
        [⟨.and, .raw ⟨"a", []⟩⟩] := rfl
    have grouped := ((effect (.whereGroup .or [.whereRaw .and "a" [], .fromTable " "])).group .or _ rfl).1
    rw [inner] at grouped
    exact grouped

end Call

end SqlSelect
