import SqlSelect.Proofs.Write
import SqlSelect.Proofs.Payload
set_option autoImplicit false

/-! Steps on queries that are alike. What a step writes depends on the dialect that the query has so far in
nothing but the dialects of the queries nested in it, and those are never read. -/
namespace SqlSelect

open Emitter

section Refl

variable {r : Likeness}

theorem RawSql.Alike.refl (value : ∀ v, r.value v v) (sql : RawSql) : sql.Alike r sql :=
  ⟨rfl, List.forall₂_same.2 fun v _ => value v⟩

theorem Join.Alike.refl (name : ∀ s, r.name s s) (j : Join) : j.Alike r j :=
  ⟨rfl, name _, name _, rfl, name _⟩

variable (name : ∀ s, r.name s s) (value : ∀ v, r.value v v)

include name value

theorem SortKey.Alike.refl (k : SortKey) : k.Alike r k := by
  cases k with
  | column s direction => exact .column direction (name s)
  | raw sql => exact .raw (.refl value sql)

/-- What is like itself place by place is like itself. -/
theorem Query.Alike.refl (q : Query) : q.Alike r q := by
  have optional : ∀ query : Option Query, (∀ q ∈ query, q.Alike r q) →
      Option.Rel (Query.Alike r) query query := by
    intro query inner
    cases query with
    | none => exact .none
    | some q => exact .some (inner q rfl)
  have conditionsAlike : ∀ conditions : List Condition,
      (∀ c ∈ conditions, c.predicate.Alike r c.predicate) →
      List.Forall₂ (Condition.Alike r) conditions conditions := by
    intro conditions inner
    refine List.forall₂_same.2 fun c inside => ?_
    have alike := inner c inside
    cases c with
    | mk link predicate => exact .intro link alike
  refine Query.nested_induction (Q := fun q => q.Alike r q) (C := fun c => c.Alike r c)
    (S := fun s => s.Alike r s) (P := fun p => p.Alike r p)
    ?query ?columnName ?columnRaw ?columnSubquery ?sourceTable ?sourceRaw ?sourceSubquery
    ?comparison ?between ?membership ?nullTest ?raw ?group ?subquery q
  case query =>
    intro q columns source conditions
    refine .intro rfl rfl (List.forall₂_same.2 columns) ?_ (List.forall₂_same.2 fun j _ => .refl name j)
      (conditionsAlike _ conditions) (List.forall₂_same.2 fun k _ => .refl name value k) rfl rfl
    cases given : q.source with
    | none => exact .none
    | some s => exact .some (source s given)
  case columnName => exact fun s => .name (name s)
  case columnRaw => exact fun sql => .raw (.refl value sql)
  case columnSubquery => exact fun label query inner => .subquery (name label) (optional query inner)
  case sourceTable => exact fun s => .table (name s)
  case sourceRaw => exact fun sql => .raw (.refl value sql)
  case sourceSubquery => exact fun label query inner => .subquery (name label) (optional query inner)
  case comparison => exact fun column op v => .comparison op (name column) (value v)
  case between =>
    exact fun column negated low high => .between negated (name column) (value low) (value high)
  case membership =>
    exact fun column negated members =>
      .membership negated (name column) (List.forall₂_same.2 fun v _ => value v)
  case nullTest => exact fun column negated => .nullTest negated (name column)
  case raw => exact fun sql => .raw (.refl value sql)
  case group => exact fun conditions inner => .group (conditionsAlike conditions inner)
  case subquery => exact fun column op query inner => .subquery op (name column) inner

/-! A part of a query is like itself because the query that holds nothing else is. -/

theorem Column.Alike.refl (c : Column) : c.Alike r c := by
  cases Query.Alike.refl name value { Query.empty with columns := [c] } with
  | intro _ _ columns =>
    cases columns with
    | cons alike _ => exact alike

theorem Source.Alike.refl (s : Source) : s.Alike r s := by
  cases Query.Alike.refl name value { Query.empty with source := some s } with
  | intro _ _ _ source =>
    cases source with
    | some alike => exact alike

theorem Condition.Alike.refl (c : Condition) : c.Alike r c := by
  cases Query.Alike.refl name value { Query.empty with conditions := [c] } with
  | intro _ _ _ _ _ conditions =>
    cases conditions with
    | cons alike _ => exact alike

end Refl

/-- What is written of two steps is alike when the parts are. -/
inductive Write.Alike (r : Likeness) : Write → Write → Prop where
  | dialect (d : Dialect) : Write.Alike r (.dialect d) (.dialect d)
  | action : Write.Alike r .action .action
  | column {a b : Column} (column : a.Alike r b) : Write.Alike r (.column a) (.column b)
  | source {a b : Source} (source : a.Alike r b) : Write.Alike r (.source a) (.source b)
  | join {a b : Join} (join : a.Alike r b) : Write.Alike r (.join a) (.join b)
  | condition {a b : Condition} (condition : a.Alike r b) :
    Write.Alike r (.condition a) (.condition b)
  | order {a b : SortKey} (key : a.Alike r b) : Write.Alike r (.order a) (.order b)
  | limit (n : Nat) : Write.Alike r (.limit n) (.limit n)
  | offset (n : Nat) : Write.Alike r (.offset n) (.offset n)

theorem Write.Alike.refl {r : Likeness} (name : ∀ s, r.name s s) (value : ∀ v, r.value v v) (w : Write) :
    w.Alike r w := by
  cases w with
  | dialect d => exact .dialect d
  | action => exact .action
  | column c => exact .column (.refl name value c)
  | source s => exact .source (.refl name value s)
  | join j => exact .join (.refl name j)
  | condition c => exact .condition (.refl name value c)
  | order k => exact .order (.refl name value k)
  | limit n => exact .limit n
  | offset n => exact .offset n

namespace Query.Alike

variable {r : Likeness} {a b : Query}

theorem put (alike : a.Alike r b) {w w' : Write} (same : w.Alike r w') :
    (a.put w).Alike r (b.put w') := by
  have last : ∀ {α : Type} {R : α → α → Prop} {xs ys : List α} {x y : α}, List.Forall₂ R xs ys →
      R x y → List.Forall₂ R (xs ++ [x]) (ys ++ [y]) :=
    fun front related => List.rel_append front (.cons related .nil)
  cases alike with
  | intro action fault columns source joins conditions order limit offset =>
    cases same with
    | dialect d => exact .intro action fault columns source joins conditions order limit offset
    | action => exact .intro rfl fault columns source joins conditions order limit offset
    | column related =>
      exact .intro action fault (last columns related) source joins conditions order limit offset
    | source related =>
      exact .intro action fault columns (.some related) joins conditions order limit offset
    | join related =>
      exact .intro action fault columns source (last joins related) conditions order limit offset
    | condition related =>
      cases related with
      | intro link predicate =>
        exact .intro action fault columns source joins (last conditions (.intro link predicate)) order
          limit offset
    | order related =>
      exact .intro action fault columns source joins conditions (last order related) limit offset
    | limit n => exact .intro action fault columns source joins conditions order rfl offset
    | offset n => exact .intro action fault columns source joins conditions order limit rfl

theorem foldl_put {ws ws' : List Write} (same : List.Forall₂ (Write.Alike r) ws ws')
    (alike : a.Alike r b) : (ws.foldl Query.put a).Alike r (ws'.foldl Query.put b) := by
  induction same generalizing a b with
  | nil => exact alike
  | cons head tail ih => exact ih (alike.put head)

theorem noting (alike : a.Alike r b) (fault : Option Fault) :
    (a.noting fault).Alike r (b.noting fault) := by
  cases alike with
  | intro action noted columns source joins conditions order limit offset =>
    exact .intro action (congrArg (Option.or · fault) noted) columns source joins conditions order limit
      offset

/-- The dialects inside of a query are of no account when it is compiled. -/
theorem compile_eq (alike : a.Alike (.ofValues Eq) b) (d : Dialect) : a.compile d = b.compile d := by
  have tracked := (sameText_parametric d Eq).read alike 0
  rw [Query.read_reading, Query.read_reading] at tracked
  change Outcome _ (a.compile d) (b.compile d) at tracked
  generalize a.compile d = x, b.compile d = y at tracked
  cases tracked with
  | refused e => rfl
  | @given f g same =>
    have params : f.params = g.params := by simpa only [List.forall₂_eq_eq_eq] using same.params
    cases f
    cases g
    exact congrArg Except.ok (congrArg₂ Fragment.mk same.text params)

theorem conditions (alike : a.Alike r b) :
    List.Forall₂ (Condition.Alike r) a.conditions b.conditions := by
  cases alike
  assumption

theorem fault_eq (alike : a.Alike r b) : a.fault = b.fault := by
  cases alike with
  | intro _ fault => exact fault

/-- Two queries that are like a third one build alike, if they are in the same dialect. -/
theorem build_eq {c : Query} (left : a.Alike (.ofValues Eq) c) (right : b.Alike (.ofValues Eq) c)
    (dialect : a.dialect = b.dialect) : a.build = b.build := by
  unfold build
  rw [left.fault_eq, right.fault_eq, dialect, left.ready_eq, right.ready_eq]
  cases c.fault with
  | some e => rfl
  | none =>
    cases b.dialect with
    | none => rfl
    | some d => simp only [left.compile_eq d, right.compile_eq d]

end Query.Alike

namespace Call

/-- What a step writes is alike whatever the dialect, if the chain that it carries leads from queries that are
alike to queries that are alike. -/
theorem writes_alike_of_carried (c : Call)
    (carried : ∀ chain ∈ c.chain?, ∀ a b : Query, a.Alike (.ofValues Eq) b →
      (applyAll a chain).Alike (.ofValues Eq) (applyAll b chain)) (d d' : Option Dialect) :
    List.Forall₂ (Write.Alike (.ofValues Eq)) (c.writes d) (c.writes d') := by
  have same : ∀ ws : List Write, List.Forall₂ (Write.Alike (.ofValues Eq)) ws ws := fun ws =>
    List.forall₂_same.2 fun w _ => .refl (fun _ => rfl) (fun _ => rfl) w
  have fresh : ∀ action : Option Action,
      Query.Alike (.ofValues Eq) { Query.empty with dialect := d, action := action }
        { Query.empty with dialect := d', action := action } :=
    fun action => .intro rfl rfl .nil .none .nil .nil .nil rfl rfl
  have inner : ∀ chain ∈ c.chain?, (subquery d chain).Alike (.ofValues Eq) (subquery d' chain) :=
    fun chain given => carried chain given _ _ (fresh _)
  have optional : ∀ chain : Option (List Call),
      (∀ given ∈ chain, (subquery d given).Alike (.ofValues Eq) (subquery d' given)) →
      Option.Rel (Query.Alike (.ofValues Eq)) (chain.map (subquery d)) (chain.map (subquery d')) := by
    intro chain each
    cases chain with
    | none => exact .none
    | some given => exact .some (each given rfl)
  cases c with
  | selectSubquery label chain =>
    exact .cons .action (.cons (.column (.subquery rfl (optional chain inner))) .nil)
  | fromSubquery label chain => exact .cons (.source (.subquery rfl (optional chain inner))) .nil
  | whereGroup link chain =>
    have group : List.Forall₂ (Condition.Alike (.ofValues Eq)) (groupConditions d chain)
        (groupConditions d' chain) := (carried chain rfl _ _ (fresh none)).conditions
    rw [writes, writes]
    generalize groupConditions d chain = cs, groupConditions d' chain = cs' at group
    cases group with
    | nil => exact .nil
    | cons head tail => exact .cons (.condition (.intro link (.group (.cons head tail)))) .nil
  | whereSubquery link column op chain =>
    cases chain with
    | none => exact .nil
    | some chain =>
      rw [writes, writes]
      cases Query.subqueryHead column op with
      | error e => exact .nil
      | ok head => exact .cons (.condition (.intro link (.subquery _ rfl (inner chain rfl)))) .nil
  | _ => exact same _

/-- Steps lead from queries that are alike to queries that are alike. -/
theorem applyAll_alike (chain : List Call) {a b : Query} (alike : a.Alike (.ofValues Eq) b) :
    (applyAll a chain).Alike (.ofValues Eq) (applyAll b chain) := by
  refine chain_induction
    (C := fun c => ∀ a b : Query, a.Alike (.ofValues Eq) b →
      (apply a c).Alike (.ofValues Eq) (apply b c))
    (L := fun chain => ∀ a b : Query, a.Alike (.ofValues Eq) b →
      (applyAll a chain).Alike (.ofValues Eq) (applyAll b chain))
    ?call ?nil ?cons chain a b alike
  case call =>
    intro c carried a b alike
    rw [apply_eq, apply_eq]
    exact (alike.foldl_put (writes_alike_of_carried c carried a.dialect b.dialect)).noting c.failure
  case nil => exact fun a b alike => by rwa [applyAll, applyAll]
  case cons =>
    intro c chain step rest a b alike
    rw [applyAll, applyAll]
    exact rest _ _ (step a b alike)

theorem writes_alike (c : Call) (d d' : Option Dialect) :
    List.Forall₂ (Write.Alike (.ofValues Eq)) (c.writes d) (c.writes d') :=
  writes_alike_of_carried c (fun chain _ _ _ => applyAll_alike chain) d d'

/-- All that a chain writes, with the queries that are nested in it left without a dialect. -/
def contents (chain : List Call) : List Write :=
  chain.flatMap (writes none)

/-- What a chain makes of a query is like what its contents make of it. -/
theorem applyAll_alike_contents (chain : List Call) {a b : Query} (alike : a.Alike (.ofValues Eq) b) :
    (applyAll a chain).Alike (.ofValues Eq)
      (((contents chain).foldl Query.put b).noting (firstFailure chain)) := by
  induction chain generalizing a b with
  | nil =>
    rw [applyAll, firstFailure, Query.noting_none]
    exact alike
  | cons c chain ih =>
    have step : (apply a c).Alike (.ofValues Eq)
        (((c.writes none).foldl Query.put b).noting c.failure) := by
      rw [apply_eq]
      exact (alike.foldl_put (writes_alike c a.dialect none)).noting c.failure
    have rest := ih step
    rw [Query.foldl_put_noting, Query.noting_noting, ← List.foldl_append] at rest
    rwa [applyAll]

end Call

end SqlSelect
