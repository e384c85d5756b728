import SqlSelect.Proofs.Legible
import SqlSelect.Proofs.Tree
import SqlSelect.Proofs.Unquoting
import SqlSelect.Proofs.Violation
set_option autoImplicit false

/-! The text of conditions with their values determines the conditions: how they are grouped and linked, what
they negate, which columns they are about and what they compare them with. All that is lost is the link of
the first condition of a list, which is not written. -/
namespace SqlSelect

open Emitter Text

/-- What stands behind WHERE, after so many values. -/
def writtenConditions (d : Dialect) (conditions : List Condition) (bound : Nat) :
    Except Fault Fragment :=
  (linked (conditionEmitters d (embedded d) conditions)).run bound

mutual

/-- The predicate with the first link of every list in it set to AND. -/
def Predicate.neutral : Predicate → Predicate
  | .group conditions => .group (neutralLinks conditions)
  | p => p

/-- The conditions with the first link, and that of every list in them, set to AND. -/
def neutralLinks : List Condition → List Condition
  | [] => []
  | ⟨_, predicate⟩ :: rest => ⟨.and, predicate.neutral⟩ :: neutralRest rest

/-- The conditions with the first link of every list in them set to AND, but not their own. -/
def neutralRest : List Condition → List Condition
  | [] => []
  | ⟨link, predicate⟩ :: rest => ⟨link, predicate.neutral⟩ :: neutralRest rest

end

/-- The comparisons that are known to be operators. -/
def knownComparisons : List String := ["=", "!=", "<>", "<", "<=", ">", ">=", "LIKE"]

/-- Predicates without text of the caller's own but column names, and without empty lists. -/
inductive Predicate.Plain : Predicate → Prop where
  | comparison (column : String) {op : String} (value : Value) (known : op ∈ knownComparisons) :
    Plain (.comparison column op value)
  | between (column : String) (negated : Bool) (low high : Value) :
    Plain (.between column negated low high)
  | membership (column : String) (negated : Bool) {members : List Value} (written : members ≠ []) :
    Plain (.membership column negated members)
  | nullTest (column : String) (negated : Bool) : Plain (.nullTest column negated)
  | group {conditions : List Condition} (written : conditions ≠ [])
    (each : ∀ c ∈ conditions, Plain c.predicate) : Plain (.group conditions)

section Neutral

variable (d : Dialect) (embed : Embedding)

theorem linkedRest_neutralRest {conditions : List Condition}
    (each : ∀ c ∈ conditions, c.predicate.neutral.emitterVia d embed = c.predicate.emitterVia d embed) :
    linked.linkedRest (conditionEmitters d embed (neutralRest conditions)) =
      linked.linkedRest (conditionEmitters d embed conditions) := by
  induction conditions with
  | nil => rfl
  | cons c conditions ih =>
    obtain ⟨link, predicate⟩ := c
    obtain ⟨first, others⟩ := List.forall_mem_cons.1 each
    simp only [neutralRest, conditionEmitters, linked.linkedRest, first, ih others]

theorem linked_neutralLinks {conditions : List Condition}
    (each : ∀ c ∈ conditions, c.predicate.neutral.emitterVia d embed = c.predicate.emitterVia d embed) :
    linked (conditionEmitters d embed (neutralLinks conditions)) =
      linked (conditionEmitters d embed conditions) := by
  cases conditions with
  | nil => rfl
  | cons c conditions =>
    obtain ⟨link, predicate⟩ := c
    obtain ⟨first, others⟩ := List.forall_mem_cons.1 each
    simp only [neutralLinks, conditionEmitters, linked, first, linkedRest_neutralRest d embed others]

/-- The first links in a predicate are not written. -/
theorem Predicate.emitterVia_neutral (p : Predicate) :
    p.neutral.emitterVia d embed = p.emitterVia d embed := by
  induction p using Predicate.group_induction with
  | single p single =>
    cases p with
    | group conditions => exact absurd rfl (single conditions)
    | _ => rfl
  | group conditions each =>
    simp only [Predicate.neutral, Predicate.emitterVia, linked_neutralLinks d embed each]

end Neutral

/-- What a predicate says about its column, but for the values. -/
inductive Verb where
  | comparing (op : String)
  | ranging (negated : Bool)
  | listing (negated : Bool)
  | testing (negated : Bool)
  deriving DecidableEq

namespace Verb

/-- The words between the column and the first value. -/
def words : Verb → String
  | comparing op => " " ++ op ++ " "
  | ranging negated => " " ++ negatable negated "BETWEEN" ++ " "
  | listing negated => " " ++ negatable negated "IN" ++ " ("
  | testing negated => if negated then " IS NOT NULL" else " IS NULL"

def known : List Verb :=
  knownComparisons.map comparing ++
    [true, false].flatMap fun negated => [ranging negated, listing negated, testing negated]

/-- No verb begins like another one. -/
theorem words_apart : ∀ v ∈ known, ∀ w ∈ known,
    v.words.toList <+: w.words.toList ∨ w.words.toList <+: v.words.toList → v = w := by
  decide +kernel

theorem begins_words : ∀ v ∈ known, v.words.toList.head?.any isSeparator := by
  decide +kernel

end Verb

/-- A predicate that says something about a column, and the emitter of what comes behind its verb. -/
inductive Predicate.Tells (d : Dialect) : Predicate → String → Verb → Emitter → Prop where
  | comparison (column : String) {op : String} (value : Value) (known : op ∈ knownComparisons) :
    Tells d (.comparison column op value) column (.comparing op) (parameter d value)
  | between (column : String) (negated : Bool) (low high : Value) :
    Tells d (.between column negated low high) column (.ranging negated)
      (parameter d low ++ (text " AND " ++ parameter d high))
  | membership (column : String) (negated : Bool) {members : List Value} (written : members ≠ []) :
    Tells d (.membership column negated members) column (.listing negated)
      (joined ", " (members.map (parameter d)) ++ text ")")
  | nullTest (column : String) (negated : Bool) :
    Tells d (.nullTest column negated) column (.testing negated) Emitter.empty

/-- A name begins with a quote, unless it is a wildcard. -/
def startsName : Char → Bool := fun c => c = '"' || c = '*'

/-- A plain predicate begins with a bracket or a name. -/
def startsPredicate : Char → Bool := fun c => c = '(' || startsName c

/-- Nothing but the end of a group may follow its conditions. -/
def closing : Char → Bool := fun c => c = ')'

theorem startsName_iff {c : Char} : startsName c ↔ c = '"' ∨ c = '*' := by
  simp [startsName]

theorem startsPredicate_iff {c : Char} : startsPredicate c ↔ c = '(' ∨ startsName c := by
  simp [startsPredicate]

theorem not_closing_of_startsPredicate {c : Char} (starts : startsPredicate c) : closing c = false := by
  rw [startsPredicate_iff, startsName_iff] at starts
  rcases starts with rfl | rfl | rfl
  · rfl
  · rfl
  · rfl

section Legible

variable {d : Dialect} (standard : d.quote = '"') {embed : Embedding} {p p' : Predicate}
  {column column' : String} {verb verb' : Verb} {operands operands' : Emitter}

theorem Predicate.Tells.known (tells : p.Tells d column verb operands) : verb ∈ Verb.known := by
  cases tells with
  | comparison _ _ known => exact List.mem_append_left _ (List.mem_map_of_mem known)
  | between _ negated => cases negated <;> decide
  | membership _ negated => cases negated <;> decide
  | nullTest _ negated => cases negated <;> decide

theorem Predicate.Tells.emitterVia_eq (tells : p.Tells d column verb operands) :
    p.emitterVia d embed = text (d.quoteIdentifier column) ++ (text verb.words ++ operands) := by
  cases tells with
  | comparison column value known =>
    rw [Predicate.emitterVia, Verb.words, ← append_assoc, ← text_append]
    simp only [String.append_assoc]
  | between column negated low high =>
    rw [Predicate.emitterVia, Verb.words, ← append_assoc, ← text_append]
    simp only [String.append_assoc, append_assoc]
  | membership column negated written =>
    rw [Predicate.emitterVia, membershipEmitter, Verb.words, ← append_assoc, ← text_append]
    simp only [List.isEmpty_iff, written, ↓reduceIte, String.append_assoc, append_assoc]
  | nullTest column negated =>
    rw [Predicate.emitterVia, Verb.words, append_empty, ← text_append]

include standard

theorem legible_identifier :
    (text (d.quoteIdentifier column)).Legible isSeparator (text (d.quoteIdentifier column'))
      (column = column') := by
  intro bound x y r s hx hy behindR behindS equal
  obtain rfl := Except.ok.inj hx
  obtain rfl := Except.ok.inj hy
  obtain ⟨texts, params⟩ := Fragment.append_eq_append_iff.1 equal
  have ends : ∀ f : Fragment, Follows isSeparator f → Reference.Ends d.quote f.text.toList := by
    intro f behind
    rw [standard]
    constructor
    · intro quote
      rw [Follows, quote] at behind
      exact absurd behind (by decide)
    · intro dot
      rw [Follows, dot] at behind
      exact absurd behind (by decide)
  simp only [Dialect.quoteIdentifier, String.toList_ofList] at texts
  obtain ⟨names, rest⟩ := Reference.quoted_ofName_append_inj (by rw [standard]; decide)
    (by rw [standard]; decide) (ends r behindR) (ends s behindS) texts
  exact ⟨String.toList_injective names, congrArg₂ Fragment.mk (String.toList_injective rest) params⟩

theorem begins_identifier : (text (d.quoteIdentifier column)).Begins startsName := by
  refine begins_text ?_
  rw [Dialect.quoteIdentifier, String.toList_ofList]
  rcases @Reference.head?_quoted_ofName d.quote column.toList with head | head
  · rw [head, standard]
    rfl
  · rw [head]
    rfl

omit standard

/-- Predicates with the same column and verb differ at most in their values. -/
theorem legible_operands (tells : p.Tells d column verb operands)
    (tells' : p'.Tells d column' verb' operands') (columns : column = column') (verbs : verb = verb') :
    operands.Legible anything operands' (p = p') := by
  subst columns verbs
  cases tells with
  | comparison column value known =>
    cases tells' with
    | comparison _ value' =>
      exact (legible_parameter d value value').imp fun same => by rw [same]
  | between column negated low high =>
    cases tells' with
    | between _ _ low' high' =>
      have first : (parameter d low).Legible anything (parameter d low') (low = low') :=
        legible_parameter d low low'
      have second : (parameter d high).Legible anything (parameter d high') (high = high') :=
        legible_parameter d high high'
      exact (first.append_anything fun _ => second.led " AND ").imp fun same => by
        rw [same.1, same.2]
  | membership column negated written =>
    cases tells' with
    | membership _ _ written' =>
      exact (legible_members d written written').imp fun same => by rw [same]
  | nullTest column negated =>
    cases tells' with
    | nullTest => exact legible_same "" rfl

include standard

theorem Predicate.Tells.legible (tells : p.Tells d column verb operands)
    (tells' : p'.Tells d column' verb' operands') :
    (p.emitterVia d embed).Legible anything (p'.emitterVia d embed) (p = p') := by
  have verbs : (text verb.words).Legible anything (text verb'.words) (verb = verb') :=
    legible_words (Verb.words_apart verb tells.known verb' tells'.known)
  have behind : column = column' → (text verb.words ++ operands).Legible anything
      (text verb'.words ++ operands') (verb = verb' ∧ p = p') :=
    fun columns => verbs.append_anything fun same => legible_operands tells tells' columns same
  -- The column ends where the blank in front of the verb stands.
  have leads : ∀ {verb : Verb} {operands : Emitter}, verb ∈ Verb.known → ∀ bound x r,
      (text verb.words ++ operands).run bound = .ok x → Follows anything r →
        Follows isSeparator (x ++ r) := by
    intro verb operands known bound x r written _
    have begins : (text verb.words ++ operands).Begins isSeparator :=
      (begins_text (Verb.begins_words verb known)).append
    exact begins.follows (fun _ separator => separator) written r
  rw [tells.emitterVia_eq, tells'.emitterVia_eq]
  have whole := (legible_identifier standard).append behind (leads tells.known) (leads tells'.known)
  exact whole.imp fun same => same.2.2

theorem Predicate.Tells.begins (tells : p.Tells d column verb operands) :
    (p.emitterVia d embed).Begins startsName := by
  rw [tells.emitterVia_eq]
  exact (begins_identifier standard).append

omit standard

theorem begins_group (conditions : List Condition) :
    ((Predicate.group conditions).emitterVia d embed).Begins fun c => c = '(' := by
  rw [Predicate.emitterVia, append_assoc]
  exact (begins_text (by decide)).append

/-- A plain predicate is a group or says something about a column. -/
theorem Predicate.Plain.tells_or_group (plain : p.Plain) :
    (∃ column verb operands, p.Tells d column verb operands) ∨ ∃ conditions, p = .group conditions := by
  cases plain with
  | comparison column value known => exact Or.inl ⟨_, _, _, .comparison column value known⟩
  | between column negated low high => exact Or.inl ⟨_, _, _, .between column negated low high⟩
  | membership column negated written => exact Or.inl ⟨_, _, _, .membership column negated written⟩
  | nullTest column negated => exact Or.inl ⟨_, _, _, .nullTest column negated⟩
  | group written each => exact Or.inr ⟨_, rfl⟩

include standard

theorem Predicate.Plain.begins (plain : p.Plain) : (p.emitterVia d embed).Begins startsPredicate := by
  rcases plain.tells_or_group (d := d) with ⟨column, verb, operands, tells⟩ | ⟨conditions, rfl⟩
  · exact (tells.begins standard).mono fun c name => startsPredicate_iff.2 (Or.inr name)
  · exact (begins_group conditions).mono fun c bracket =>
      startsPredicate_iff.2 (Or.inl (of_decide_eq_true bracket))

/-- A predicate about a column is told from every other plain one. -/
theorem Predicate.Tells.legible_plain (tells : p.Tells d column verb operands) (plain : p'.Plain) :
    (p.emitterVia d embed).Legible anything (p'.emitterVia d embed) (p.neutral = p'.neutral) := by
  rcases plain.tells_or_group (d := d) with ⟨column', verb', operands', tells'⟩ | ⟨conditions, rfl⟩
  · exact (tells.legible standard tells').imp fun same => congrArg Predicate.neutral same
  · refine legible_of_begins (tells.begins standard) (begins_group conditions) fun c name => ?_
    rcases startsName_iff.1 name with rfl | rfl
    · rfl
    · rfl

end Legible

section Lists

variable {d : Dialect} {embed : Embedding} {conditions conditions' : List Condition}

theorem link_words_apart : ∀ l l' : Link,
    (" " ++ l.keyword ++ " ").toList <+: (" " ++ l'.keyword ++ " ").toList ∨
      (" " ++ l'.keyword ++ " ").toList <+: (" " ++ l.keyword ++ " ").toList → l = l' := by
  intro l l'
  cases l <;> cases l' <;> decide

theorem legible_link (l l' : Link) :
    (text (" " ++ l.keyword ++ " ")).Legible anything (text (" " ++ l'.keyword ++ " ")) (l = l') :=
  @legible_words _ _ (fun l : Link => " " ++ l.keyword ++ " ") _ _ (link_words_apart l l')

theorem begins_linkedRest (c : Condition) (conditions : List Condition) :
    (linked.linkedRest (conditionEmitters d embed (c :: conditions))).Begins fun k => k = ' ' := by
  obtain ⟨link, predicate⟩ := c
  rw [conditionEmitters, linked.linkedRest, append_assoc]
  exact (begins_text (by cases link <;> decide)).append

variable (each : ∀ c ∈ conditions, ∀ p : Predicate, p.Plain →
    (c.predicate.emitterVia d embed).Legible anything (p.emitterVia d embed)
      (c.predicate.neutral = p.neutral))
  (plain : ∀ c ∈ conditions', c.predicate.Plain)

include each plain

theorem legible_linkedRest :
    (linked.linkedRest (conditionEmitters d embed conditions)).Legible closing
      (linked.linkedRest (conditionEmitters d embed conditions'))
      (neutralRest conditions = neutralRest conditions') := by
  -- A link begins with a blank, so a list that has come to its end cannot pass for a longer one.
  have space : ∀ c : Char, c = ' ' → closing c = false := by
    rintro c rfl
    rfl
  induction conditions generalizing conditions' with
  | nil =>
    cases conditions' with
    | nil => exact legible_same "" rfl
    | cons c' conditions' =>
      exact legible_empty (begins_linkedRest c' conditions') fun c known => space c (by simpa using known)
  | cons c conditions ih =>
    cases conditions' with
    | nil =>
      exact (legible_empty (begins_linkedRest c conditions) fun c known =>
        space c (by simpa using known)).symm
    | cons c' conditions' =>
      obtain ⟨first, others⟩ := List.forall_mem_cons.1 each
      obtain ⟨first', others'⟩ := List.forall_mem_cons.1 plain
      obtain ⟨link, predicate⟩ := c
      obtain ⟨link', predicate'⟩ := c'
      have linked := (legible_link link link').append_anything fun _ => first predicate' first'
      refine (linked.append_anything fun _ => ih others others').imp ?_
      rintro ⟨⟨rfl, heads⟩, rests⟩
      simp only [neutralRest, rests, heads]

/-- Lists of conditions are told apart by what they are written as, but for their first links. -/
theorem legible_linked (standard : d.quote = '"') (plain' : ∀ c ∈ conditions, c.predicate.Plain) :
    (linked (conditionEmitters d embed conditions)).Legible closing
      (linked (conditionEmitters d embed conditions'))
      (neutralLinks conditions = neutralLinks conditions') := by
  have opened : ∀ c : Condition, ∀ conditions : List Condition, c.predicate.Plain →
      (linked (conditionEmitters d embed (c :: conditions))).Begins startsPredicate := by
    rintro ⟨link, predicate⟩ _ first
    exact (first.begins standard).append
  have apart : ∀ c, startsPredicate c → closing c = false :=
    fun _ => not_closing_of_startsPredicate
  cases conditions with
  | nil =>
    cases conditions' with
    | nil => exact legible_same "" rfl
    | cons c' conditions' =>
      exact legible_empty (opened c' conditions' (plain c' List.mem_cons_self)) apart
  | cons c conditions =>
    cases conditions' with
    | nil => exact (legible_empty (opened c conditions (plain' c List.mem_cons_self)) apart).symm
    | cons c' conditions' =>
      obtain ⟨first, others⟩ := List.forall_mem_cons.1 each
      obtain ⟨first', others'⟩ := List.forall_mem_cons.1 plain
      obtain ⟨link, predicate⟩ := c
      obtain ⟨link', predicate'⟩ := c'
      refine ((first predicate' first').append_anything fun _ =>
        legible_linkedRest others others').imp ?_
      rintro ⟨heads, rests⟩
      simp only [neutralLinks, heads, rests]

end Lists

section Whole

variable {d : Dialect} {embed : Embedding}

theorem judged_joined (separator : String) {items : List Emitter} (each : ∀ e ∈ items, e.Judged []) :
    (joined separator items).Judged [] := by
  induction items with
  | nil => exact judged_text _
  | cons e items ih =>
    obtain ⟨first, others⟩ := List.forall_mem_cons.1 each
    cases items with
    | nil => exact first
    | cons next items => exact (first.append (judged_text _)).append (ih others)

theorem judged_linkedRest {items : List (Link × Emitter)} (each : ∀ item ∈ items, item.2.Judged []) :
    (linked.linkedRest items).Judged [] := by
  induction items with
  | nil => exact judged_text _
  | cons item items ih =>
    obtain ⟨first, others⟩ := List.forall_mem_cons.1 each
    exact ((judged_text _).append first).append (ih others)

theorem judged_linked {items : List (Link × Emitter)} (each : ∀ item ∈ items, item.2.Judged []) :
    (linked items).Judged [] := by
  cases items with
  | nil => exact judged_text _
  | cons item items =>
    obtain ⟨first, others⟩ := List.forall_mem_cons.1 each
    exact first.append (judged_linkedRest others)

theorem judged_conditions {conditions : List Condition}
    (each : ∀ c ∈ conditions, (c.predicate.emitterVia d embed).Judged []) :
    (linked (conditionEmitters d embed conditions)).Judged [] := by
  rw [conditionEmitters_eq_map]
  exact judged_linked (List.forall_mem_map.2 each)

/-- Nothing is wrong with a plain predicate. -/
theorem Predicate.Plain.judged {p : Predicate} (plain : p.Plain) :
    (p.emitterVia d embed).Judged [] := by
  have bound : ∀ v, (parameter d v).Judged [] := fun _ _ => .clean _
  induction plain with
  | comparison column value known => exact (judged_text _).append (bound value)
  | between column negated low high =>
    exact (((judged_text _).append (bound low)).append (judged_text _)).append (bound high)
  | @membership column negated members written =>
    rw [Predicate.emitterVia, membershipEmitter, if_neg (by simpa using written)]
    have each : ∀ e ∈ members.map (parameter d), e.Judged [] :=
      List.forall_mem_map.2 fun v _ => bound v
    exact ((judged_text _).append (judged_joined ", " each)).append (judged_text _)
  | nullTest column negated => exact judged_text _
  | group written each ih => exact ((judged_text _).append (judged_conditions ih)).append (judged_text _)

theorem exists_run_of_judged {e : Emitter} (judged : e.Judged []) (bound : Nat) :
    ∃ f, e.run bound = .ok f := by
  have verdict := judged bound
  generalize e.run bound = result at verdict
  cases verdict with
  | clean f => exact ⟨f, rfl⟩

/-- Plain predicates are told apart by what they are written as, but for the first links in them. -/
theorem Predicate.Plain.legible (standard : d.quote = '"') {p : Predicate} (plain : p.Plain) :
    ∀ p' : Predicate, p'.Plain → (p.emitterVia d embed).Legible anything (p'.emitterVia d embed)
      (p.neutral = p'.neutral) := by
  induction plain with
  | comparison column value known =>
    exact fun _ => (Tells.comparison column value known).legible_plain standard
  | between column negated low high =>
    exact fun _ => (Tells.between column negated low high).legible_plain standard
  | membership column negated written =>
    exact fun _ => (Tells.membership column negated written).legible_plain standard
  | nullTest column negated => exact fun _ => (Tells.nullTest column negated).legible_plain standard
  | @group conditions written each ih =>
    intro p' plain'
    rcases plain'.tells_or_group (d := d) with ⟨column, verb, operands, tells⟩ | ⟨conditions', rfl⟩
    · exact ((tells.legible_plain standard (.group written each)).symm).imp Eq.symm
    · cases plain' with
      | group written' each' =>
        have inner : (linked (conditionEmitters d embed conditions)).Legible closing
            (linked (conditionEmitters d embed conditions'))
            (neutralLinks conditions = neutralLinks conditions') :=
          legible_linked ih each' standard each
        have bracket : (text ")").Legible anything (text ")") True := legible_same ")" trivial
        -- What stands in a group is followed by its own bracket, so anything may follow the group.
        have ends : ∀ bound x r, (text ")").run bound = .ok x → Follows anything r →
            Follows closing (x ++ r) := by
          intro bound x r written _
          have closes : (text ")").Begins closing := begins_text (by decide)
          exact closes.follows (fun _ known => known) written r
        have whole := (inner.append (fun _ => bracket) ends ends).led "("
        rw [Predicate.emitterVia, Predicate.emitterVia, append_assoc, append_assoc]
        refine whole.imp fun same => ?_
        rw [Predicate.neutral, Predicate.neutral, same.1]

end Whole

/-- With standard quotes, conditions are written alike exactly when they differ in first links only. -/
theorem writtenConditions_eq_iff_neutralLinks_eq {d : Dialect} (standard : d.quote = '"') (bound : Nat)
    {conditions conditions' : List Condition} (plain : ∀ c ∈ conditions, c.predicate.Plain)
    (plain' : ∀ c ∈ conditions', c.predicate.Plain) :
    ∃ f f', writtenConditions d conditions bound = .ok f ∧
      writtenConditions d conditions' bound = .ok f' ∧
      (f.text = f'.text ∧ f.params = f'.params ↔
        neutralLinks conditions = neutralLinks conditions') := by
  have judged : ∀ {conditions : List Condition}, (∀ c ∈ conditions, c.predicate.Plain) →
      ∃ f, writtenConditions d conditions bound = .ok f :=
    fun plain => exists_run_of_judged (judged_conditions fun c inside => (plain c inside).judged) bound
  obtain ⟨f, written⟩ := judged plain
  obtain ⟨f', written'⟩ := judged plain'
  refine ⟨f, f', written, written', ?_, ?_⟩
  · rintro ⟨texts, params⟩
    have legible : (linked (conditionEmitters d (embedded d) conditions)).Legible closing
        (linked (conditionEmitters d (embedded d) conditions'))
        (neutralLinks conditions = neutralLinks conditions') :=
      legible_linked (fun c inside => (plain c inside).legible standard) plain' standard plain
    have nothing : Follows closing ⟨"", []⟩ := rfl
    have same : f ++ ⟨"", []⟩ = f' ++ ⟨"", []⟩ := by
      obtain ⟨s, values⟩ := f
      obtain ⟨s', values'⟩ := f'
      cases texts
      cases params
      rfl
    exact (legible bound f f' _ _ written written' nothing nothing same).1
  · intro same
    have each : ∀ {conditions : List Condition}, ∀ c ∈ conditions,
        c.predicate.neutral.emitterVia d (embedded d) = c.predicate.emitterVia d (embedded d) :=
      fun c _ => c.predicate.emitterVia_neutral d (embedded d)
    have runs : writtenConditions d conditions bound = writtenConditions d conditions' bound := by
      rw [writtenConditions, writtenConditions, ← linked_neutralLinks d _ each, same,
        linked_neutralLinks d _ each]
    rw [written, written'] at runs
    cases runs
    exact ⟨rfl, rfl⟩

/-- Two conditions, the second a group of two, with the first and the second link of both lists given. -/
def unpaid (first second : Link) : List Condition :=
  [⟨first, .comparison "total" ">" (.int 10)⟩,
    ⟨second, .group [⟨first, .between "o.due" true (.int 1) (.int 7)⟩, ⟨second, .nullTest "paid" false⟩]⟩]

theorem plain_unpaid (first second : Link) : ∀ c ∈ unpaid first second, c.predicate.Plain := by
  refine List.forall_mem_cons.2 ⟨.comparison _ _ (by decide), List.forall_mem_singleton.2 ?_⟩
  refine .group (List.cons_ne_nil _ _) (List.forall_mem_cons.2 ⟨.between .., ?_⟩)
  exact List.forall_mem_singleton.2 (.nullTest ..)

/-- The first links of both lists are not seen, the second ones are. -/
theorem writtenConditions_unpaid :
    (∃ f f', writtenConditions .postgres (unpaid .and .or) 0 = .ok f ∧
      writtenConditions .postgres (unpaid .or .or) 0 = .ok f' ∧ f.text = f'.text ∧
      f.params = f'.params) ∧
    ∃ f f', writtenConditions .postgres (unpaid .and .or) 0 = .ok f ∧
      writtenConditions .postgres (unpaid .and .and) 0 = .ok f' ∧
      ¬(f.text = f'.text ∧ f.params = f'.params) := by
  constructor
  · obtain ⟨f, f', written, written', same⟩ := writtenConditions_eq_iff_neutralLinks_eq
      (d := .postgres) rfl 0 (plain_unpaid .and .or) (plain_unpaid .or .or)
    exact ⟨f, f', written, written', same.2 rfl⟩
  · obtain ⟨f, f', written, written', same⟩ := writtenConditions_eq_iff_neutralLinks_eq
      (d := .postgres) rfl 0 (plain_unpaid .and .or) (plain_unpaid .and .and)
    refine ⟨f, f', written, written', fun alike => ?_⟩
    have links := same.1 alike
    simp [unpaid, neutralLinks, neutralRest] at links

end SqlSelect
