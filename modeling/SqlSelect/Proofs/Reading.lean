import SqlSelect.Proofs.Seam
import SqlSelect.Proofs.Tree
set_option autoImplicit false

/-! Readings of a query. A statement is put together from few kinds of pieces; to read a query is to say
what each piece means and how two pieces go together. Writing the statement is one reading, collecting
its values another. -/
namespace SqlSelect

/-- What the pieces of a statement mean. -/
structure Pieces (M : Type) where
  append : M → M → M
  keyword : String → M
  /-- A condition that always holds, or never. -/
  constant : Bool → M
  number : Nat → M
  operator : String → M
  column : String → M
  table : String → M
  identifier : String → M
  parameter : Value → M
  template : RawSql → M
  rawColumn : RawSql → M
  /-- A part that is refused if there is a fault. -/
  guarded : Option Fault → M → M
  /-- A join, which is not supported everywhere. -/
  joined : JoinKind → M → M

namespace Pieces

variable {M : Type} (p : Pieces M)

/-- Two pieces with a keyword between them. -/
def between (a : M) (s : String) (b : M) : M :=
  p.append (p.append a (p.keyword s)) b

/-- Pieces with the separator between any two of them. -/
def separated (separator : String) : List M → M
  | [] => p.keyword ""
  | [m] => m
  | m :: rest => p.between m separator (separated separator rest)

/-- Pieces with links between them; the first one needs none. -/
def linked : List (Link × M) → M
  | [] => p.keyword ""
  | (_, m) :: rest => p.append m (linkedRest rest)
where
  linkedRest : List (Link × M) → M
    | [] => p.keyword ""
    | (link, m) :: rest =>
      p.append (p.append (p.keyword (" " ++ link.keyword ++ " ")) m) (linkedRest rest)

def bracketed (m : M) : M :=
  p.append (p.append (p.keyword "(") m) (p.keyword ")")

def labelled (label : String) : Option M → M
  | none => p.guarded (some .missingSubquery) (p.keyword "")
  | some m =>
    p.guarded (if label.isEmpty then some .emptyAlias else none)
      (p.between (p.append (p.keyword "(") m) ") AS " (p.identifier label))

def join (j : Join) : M :=
  p.joined j.kind
    (p.between
      (p.between
        (p.between (p.between (p.keyword j.kind.keyword) " " (p.table j.table)) " ON "
          (p.identifier j.left)) " " (p.operator j.op)) " " (p.identifier j.right))

def sortKey : SortKey → M
  | .column name direction => p.between (p.identifier name) " " (p.keyword direction.keyword)
  | .raw sql => p.template sql

def membership (column : String) (negated : Bool) (members : List Value) : M :=
  if members.isEmpty then p.constant negated
  else
    p.append
      (p.between (p.identifier column) (" " ++ negatable negated "IN" ++ " (")
        (p.separated ", " (members.map p.parameter)))
      (p.keyword ")")

def columnsClause (columns : List M) : M :=
  if columns.isEmpty then p.keyword "*" else p.separated ", " columns

def joinsClause (joins : List Join) : M :=
  p.separated "" (joins.map fun j => p.append (p.keyword " ") (p.join j))

def whereClause (conditions : List (Link × M)) : M :=
  if conditions.isEmpty then p.keyword "" else p.append (p.keyword " WHERE ") (p.linked conditions)

def orderClause (order : List SortKey) : M :=
  if order.isEmpty then p.keyword ""
  else p.append (p.keyword " ORDER BY ") (p.separated ", " (order.map p.sortKey))

def numberClause (keyword : String) : Option Nat → M
  | none => p.keyword ""
  | some n => p.append (p.keyword keyword) (p.number n)

def afterColumns (source : M) (joins : List Join) (conditions : List (Link × M))
    (order : List SortKey) (limit offset : Option Nat) : M :=
  p.append (p.keyword " FROM ") (p.append source (p.append (p.joinsClause joins)
    (p.append (p.whereClause conditions) (p.append (p.orderClause order)
      (p.append (p.numberClause " LIMIT " limit) (p.numberClause " OFFSET " offset))))))

end Pieces

/-- The meaning of the pieces, and of a statement inside of another one. -/
structure Reading (M : Type) extends Pieces M where
  /-- A statement that takes its place in another one. -/
  nested : Query → M → M

mutual

/-- What a query means, read from left to right with everything nested in it. -/
def Query.read {M : Type} (p : Reading M) : Query → M
  | ⟨_, _, columns, source, joins, conditions, order, limit, offset, _⟩ =>
    p.append (p.keyword "SELECT ") (p.append (p.columnsClause (readColumns p columns))
      (p.afterColumns (readSource p source) joins (readConditions p conditions) order limit offset))

def readColumns {M : Type} (p : Reading M) : List Column → List M
  | [] => []
  | c :: rest => c.read p :: readColumns p rest

def Column.read {M : Type} (p : Reading M) : Column → M
  | .name name => p.column name
  | .raw sql => p.rawColumn sql
  | .subquery label query => p.labelled label (readSubquery p query)

def readSubquery {M : Type} (p : Reading M) : Option Query → Option M
  | none => none
  | some query => some (p.nested query (query.read p))

def readSource {M : Type} (p : Reading M) : Option Source → M
  | none => p.guarded (some .emptyTable) (p.keyword "")
  | some source => source.read p

def Source.read {M : Type} (p : Reading M) : Source → M
  | .table name => p.guarded (if (Text.trim name).isEmpty then some .emptyTable else none) (p.table name)
  | .raw sql =>
    p.guarded (if (Text.trim sql.text).isEmpty then some .emptyExpression else none) (p.template sql)
  | .subquery label query => p.labelled label (readSubquery p query)

def readConditions {M : Type} (p : Reading M) : List Condition → List (Link × M)
  | [] => []
  | ⟨link, predicate⟩ :: rest => (link, predicate.read p) :: readConditions p rest

def Predicate.read {M : Type} (p : Reading M) : Predicate → M
  | .comparison column op value =>
    p.between (p.between (p.identifier column) " " (p.operator op)) " " (p.parameter value)
  | .between column negated low high =>
    p.between
      (p.between (p.identifier column) (" " ++ negatable negated "BETWEEN" ++ " ") (p.parameter low))
      " AND " (p.parameter high)
  | .membership column negated members => p.membership column negated members
  | .nullTest column negated =>
    p.append (p.identifier column) (p.keyword (if negated then " IS NOT NULL" else " IS NULL"))
  | .raw sql => p.template sql
  | .group conditions => p.bracketed (p.linked (readConditions p conditions))
  | .subquery column op query =>
    p.append
      (p.between
        (if column.isEmpty then p.operator op
          else p.between (p.identifier column) " " (p.operator op))
        " (" (p.nested query (query.read p)))
      (p.keyword ")")

end

section Lists

variable {M : Type} (p : Reading M)

theorem readColumns_eq_map (columns : List Column) :
    readColumns p columns = columns.map (Column.read p) := by
  induction columns with
  | nil => rfl
  | cons c columns ih => rw [readColumns, ih, List.map_cons]

theorem readConditions_eq_map (conditions : List Condition) :
    readConditions p conditions = conditions.map fun c => (c.link, c.predicate.read p) := by
  induction conditions with
  | nil => rfl
  | cons c conditions ih =>
    obtain ⟨link, predicate⟩ := c
    rw [readConditions, ih, List.map_cons]

/-- What is read behind the columns. -/
def Query.readAfterColumns (q : Query) : M :=
  p.afterColumns (readSource p q.source) q.joins
    (q.conditions.map fun c => (c.link, c.predicate.read p)) q.order q.limit q.offset

theorem Query.read_eq (q : Query) :
    q.read p = p.append (p.keyword "SELECT ")
      (p.append (p.columnsClause (q.columns.map (Column.read p))) (q.readAfterColumns p)) := by
  cases q
  rw [Query.read, readColumns_eq_map, readConditions_eq_map]
  rfl

end Lists

/-- Why the dialect cannot write a join, if it cannot. -/
def Dialect.joinFault (d : Dialect) (kind : JoinKind) : Option Fault :=
  if kind = .full && !d.supportsFullJoin then some .fullJoinUnsupported else none

namespace Emitter

/-- A piece that is refused if there is a fault. -/
def guarded : Option Fault → Emitter → Emitter
  | none, e => e
  | some fault, _ => fail fault

theorem guarded_ite (c : Prop) [Decidable c] (fault : Fault) (e : Emitter) :
    guarded (if c then some fault else none) e = if c then fail fault else e := by
  split <;> rfl

/-- The reading that writes a statement. -/
def reading (d : Dialect) (embed : Embedding) : Reading Emitter where
  append := (· ++ ·)
  keyword := text
  constant holds := text (if holds then "1 = 1" else "1 = 0")
  number n := text (toString n)
  operator := text
  column name := text (d.quoteColumn name)
  table name := text (d.quoteTable name)
  identifier name := text (d.quoteIdentifier name)
  parameter := parameter d
  template := template d
  rawColumn := verbatim
  guarded := guarded
  joined kind := guarded (d.joinFault kind)
  nested q e := embed q.ready e

variable (d : Dialect) (embed : Embedding)

theorem separated_eq_joined (separator : String) (items : List Emitter) :
    (reading d embed).separated separator items = joined separator items := by
  induction items with
  | nil => rfl
  | cons e items ih =>
    cases items with
    | nil => rfl
    | cons next items =>
      rw [Pieces.separated, ih]
      · rfl
      · simp

theorem reading_linked (items : List (Link × Emitter)) :
    (reading d embed).linked items = linked items := by
  have rest : ∀ items : List (Link × Emitter),
      Pieces.linked.linkedRest (reading d embed).toPieces items = linked.linkedRest items := by
    intro items
    induction items with
    | nil => rfl
    | cons item items ih =>
      obtain ⟨link, e⟩ := item
      rw [Pieces.linked.linkedRest, ih]
      rfl
  cases items with
  | nil => rfl
  | cons item items =>
    obtain ⟨link, e⟩ := item
    rw [Pieces.linked, rest]
    rfl

theorem reading_labelled (label : String) (body : Option Emitter) :
    (reading d embed).labelled label body = labelled d label body := by
  cases body with
  | none => rfl
  | some e =>
    rw [labelled, text_append, ← append_assoc, ← guarded_ite]
    rfl

theorem reading_join (j : Join) : (reading d embed).join j = j.emitter d := by
  rw [Join.emitter, ← guarded_ite]
  rfl

theorem reading_sortKey (k : SortKey) : (reading d embed).sortKey k = k.emitter d := by
  cases k <;> rfl

theorem reading_membership (column : String) (negated : Bool) (members : List Value) :
    (reading d embed).membership column negated members =
      membershipEmitter d column negated members := by
  rw [Pieces.membership, separated_eq_joined, membershipEmitter]
  split
  · rfl
  · have head : d.quoteIdentifier column ++ " " ++ negatable negated "IN" ++ " (" =
        d.quoteIdentifier column ++ (" " ++ negatable negated "IN" ++ " (") := by
      simp only [String.append_assoc]
    rw [head, text_append]
    rfl

theorem reading_numberClause (keyword : String) (n : Option Nat) :
    (reading d embed).numberClause keyword n = numberClause keyword n := by
  cases n <;> rfl

theorem reading_columnsClause (columns : List Emitter) :
    (reading d embed).columnsClause columns = columnsClause columns := by
  rw [Pieces.columnsClause, separated_eq_joined]
  rfl

theorem reading_joinsClause (joins : List Join) :
    (reading d embed).joinsClause joins = joinsClause d joins := by
  rw [Pieces.joinsClause, separated_eq_joined, joinsClause]
  congr 1
  exact List.map_congr_left fun j _ => congrArg (text " " ++ ·) (reading_join d embed j)

theorem reading_whereClause (conditions : List (Link × Emitter)) :
    (reading d embed).whereClause conditions = whereClause conditions := by
  rw [Pieces.whereClause, reading_linked]
  rfl

theorem reading_orderClause (order : List SortKey) :
    (reading d embed).orderClause order = orderClause d order := by
  have keys : order.map (reading d embed).sortKey = order.map (SortKey.emitter d) :=
    List.map_congr_left fun k _ => reading_sortKey d embed k
  rw [Pieces.orderClause, separated_eq_joined, keys]
  rfl

end Emitter

open Emitter

theorem readSubquery_reading {d : Dialect} {embed : Embedding} {query : Option Query}
    (inner : ∀ q ∈ query, q.read (reading d embed) = q.emitterVia d embed) :
    readSubquery (reading d embed) query = subqueryEmitter d embed query := by
  cases query with
  | none => rfl
  | some q =>
    rw [readSubquery, inner q rfl]
    rfl

/-- Reading for emitters is writing. -/
theorem Query.read_reading (d : Dialect) (embed : Embedding) (q : Query) :
    q.read (reading d embed) = q.emitterVia d embed := by
  refine Query.nested_induction
    (Q := fun q => q.read (reading d embed) = q.emitterVia d embed)
    (C := fun c => c.read (reading d embed) = c.emitterVia d embed)
    (S := fun s => s.read (reading d embed) = s.emitterVia d embed)
    (P := fun p => p.read (reading d embed) = p.emitterVia d embed)
    ?query ?columnName ?columnRaw ?columnSubquery ?sourceTable ?sourceRaw ?sourceSubquery
    ?comparison ?between ?membership ?nullTest ?raw ?group ?subquery q
  case query =>
    intro q columns source conditions
    have list : q.columns.map (Column.read (reading d embed)) =
        q.columns.map (Column.emitterVia d embed) :=
      List.map_congr_left fun c inside => columns c inside
    have links : (q.conditions.map fun c => (c.link, c.predicate.read (reading d embed))) =
        q.conditions.map fun c => (c.link, c.predicate.emitterVia d embed) :=
      List.map_congr_left fun c inside => congrArg (c.link, ·) (conditions c inside)
    have rows : readSource (reading d embed) q.source = sourceEmitter d embed q.source := by
      cases given : q.source with
      | none => rfl
      | some s => exact source s given
    rw [Query.read_eq, Query.emitterVia_eq_afterColumns, Query.readAfterColumns, list, links, rows,
      reading_columnsClause, Pieces.afterColumns, reading_joinsClause, reading_whereClause,
      reading_orderClause, reading_numberClause, reading_numberClause]
    rfl
  case columnName => exact fun name => rfl
  case columnRaw => exact fun sql => rfl
  case columnSubquery =>
    intro label query inner
    rw [Column.read, reading_labelled, readSubquery_reading inner]
    rfl
  case sourceTable =>
    intro name
    rw [Source.emitterVia, ← guarded_ite]
    simp only [Source.read, reading]
  case sourceRaw =>
    intro sql
    rw [Source.emitterVia, ← guarded_ite]
    simp only [Source.read, reading]
  case sourceSubquery =>
    intro label query inner
    rw [Source.read, reading_labelled, readSubquery_reading inner]
    rfl
  case comparison => exact fun column op value => rfl
  case between =>
    intro column negated low high
    have head : d.quoteIdentifier column ++ " " ++ negatable negated "BETWEEN" ++ " " =
        d.quoteIdentifier column ++ (" " ++ negatable negated "BETWEEN" ++ " ") := by
      simp only [String.append_assoc]
    rw [Predicate.emitterVia, head, text_append]
    rfl
  case membership => exact fun column negated members => reading_membership d embed column negated members
  case nullTest =>
    intro column negated
    rw [Predicate.emitterVia, text_append]
    rfl
  case raw => exact fun sql => rfl
  case group =>
    intro conditions inner
    have links : (conditions.map fun c => (c.link, c.predicate.read (reading d embed))) =
        conditions.map fun c => (c.link, c.predicate.emitterVia d embed) :=
      List.map_congr_left fun c inside => congrArg (c.link, ·) (inner c inside)
    rw [Predicate.read, readConditions_eq_map, links, Pieces.bracketed, reading_linked,
      Predicate.emitterVia, conditionEmitters_eq_map]
    rfl
  case subquery =>
    intro column op query inner
    rw [Predicate.read, inner, Predicate.emitterVia, subqueryHeadText]
    split
    · rfl
    · rfl

end SqlSelect
