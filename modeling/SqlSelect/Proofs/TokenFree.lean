import SqlSelect.Proofs.Compositional
import SqlSelect.Proofs.Marker
import SqlSelect.Proofs.Quoting
set_option autoImplicit false

/-! Texts without placeholders: what a dialect writes by itself is one, and so is a quoted name whose
parts are. A relation between emitters that holds of all of them, and of parameters and templates, is
compositional. -/
namespace SqlSelect

open Emitter Placeholder Text

namespace Dialect

variable {d : Dialect}

theorem not_holdsToken_of_no_digit {s : String}
    (noDigit : s.toList.all fun c => !isDecimalDigit c) : d.holdsToken s = false := by
  unfold holdsToken
  split
  · rfl
  · exact Placeholder.not_holdsToken_of_no_digit noDigit

theorem not_holdsToken_of_isKeyword {s : String} (word : isKeyword s) : d.holdsToken s = false := by
  apply not_holdsToken_of_no_digit
  rw [isKeyword, List.all_eq_true] at word
  rw [List.all_eq_true]
  intro c inside
  have kind := word c inside
  simp only [Bool.or_eq_true, decide_eq_true_eq] at kind
  rcases kind with (separator | upper) | rfl
  · simp [not_isDecimalDigit_of_isSeparator separator]
  · have range : 65 ≤ c.toNat ∧ c.toNat ≤ 90 := by
      have between : 'A'.val ≤ c.val ∧ c.val ≤ 'Z'.val := of_decide_eq_true upper
      exact ⟨UInt32.le_iff_toNat_le.1 between.1, UInt32.le_iff_toNat_le.1 between.2⟩
    have other : c.isDigit = false := by
      simp only [Char.isDigit, UInt32.le_iff_toNat_le, Bool.and_eq_false_iff, decide_eq_false_iff_not]
      right
      change ¬ c.toNat ≤ 57
      omega
    simp [not_isDecimalDigit_of_lt (by omega : c.toNat < 0x660) other]
  · decide

theorem Readable.not_holdsToken_number (readable : d.Readable) (n : Nat) :
    d.holdsToken (toString n) = false := by
  rcases readable with positional | ⟨m, marked⟩
  · simp [holdsToken, positional]
  · rw [marked.holdsToken_eq]
    apply not_holdsToken_of_not_mem
    intro inside
    have printed : m ∈ Nat.toDigits 10 n := by simpa [toString, Nat.repr] using inside
    have digit := Nat.isDigit_of_mem_toDigits (by decide) (by decide) printed
    have decimal := isDecimalDigit_of_isDigit digit
    rw [marked.notDigit] at decimal
    cases decimal

/-- The conditions that stand for an empty list of members hold digits, but no marker in front of one. -/
theorem Readable.not_holdsToken_equation (readable : d.Readable) (c : Char) :
    d.holdsToken (String.ofList ['1', ' ', '=', ' ', c]) = false := by
  rcases readable with positional | ⟨m, marked⟩
  · simp [holdsToken, positional]
  · have space : ' ' ≠ m := by
      rintro rfl
      exact absurd marked.notSeparator (by decide)
    have blank : isDecimalDigit ' ' = false := by decide
    have equals : isDecimalDigit '=' = false := by decide
    rw [marked.holdsToken_eq, String.toList_ofList]
    simp only [holdsToken_cons, startsWithDigit_cons, startsWithDigit_nil, blank, equals, space,
      holdsToken_nil, decide_false, Bool.and_false, Bool.false_and, Bool.or_false]

theorem Readable.not_holdsToken_quoted (readable : d.Readable) {s : String} {r : Reference}
    (pieces : ∀ p ∈ r.names, p <:+: s.toList) (free : d.holdsToken s = false) :
    d.holdsToken (String.ofList (r.quoted d.quote)) = false := by
  rcases readable with positional | ⟨m, marked⟩
  · simp [holdsToken, positional]
  · rw [marked.holdsToken_eq] at free ⊢
    rw [String.toList_ofList]
    exact Reference.not_holdsToken_quoted marked.notQuote marked.quoteNotDigit fun p inside =>
      not_holdsToken_of_infix (pieces p inside) free

theorem Readable.not_holdsToken_quoteColumn (readable : d.Readable) {s : String}
    (free : d.holdsToken s = false) : d.holdsToken (d.quoteColumn s) = false :=
  readable.not_holdsToken_quoted (fun _ inside => Reference.infix_of_mem_ofColumn inside) free

theorem Readable.not_holdsToken_quoteTable (readable : d.Readable) {s : String}
    (free : d.holdsToken s = false) : d.holdsToken (d.quoteTable s) = false :=
  readable.not_holdsToken_quoted (fun _ inside => Reference.infix_of_mem_ofTable inside) free

theorem Readable.not_holdsToken_quoteIdentifier (readable : d.Readable) {s : String}
    (free : d.holdsToken s = false) : d.holdsToken (d.quoteIdentifier s) = false :=
  readable.not_holdsToken_quoted (fun _ inside => Reference.infix_of_mem_ofName inside) free

/-- A property that every text of the dialect's own has, and every quoted name if the name has it. -/
structure Accepts (d : Dialect) (free : String → Bool) : Prop where
  keyword : ∀ {s}, isKeyword s → free s
  equation : ∀ c, free (String.ofList ['1', ' ', '=', ' ', c])
  number : ∀ n : Nat, free (toString n)
  column : ∀ {s}, free s → free (d.quoteColumn s)
  table : ∀ {s}, free s → free (d.quoteTable s)
  identifier : ∀ {s}, free s → free (d.quoteIdentifier s)

theorem Readable.accepts (readable : d.Readable) : d.Accepts fun s => !d.holdsToken s where
  keyword word := by rw [not_holdsToken_of_isKeyword word, Bool.not_false]
  equation c := by rw [readable.not_holdsToken_equation, Bool.not_false]
  number n := by rw [readable.not_holdsToken_number, Bool.not_false]
  column free := by
    rw [Bool.not_eq_true'] at free ⊢
    exact readable.not_holdsToken_quoteColumn free
  table free := by
    rw [Bool.not_eq_true'] at free ⊢
    exact readable.not_holdsToken_quoteTable free
  identifier free := by
    rw [Bool.not_eq_true'] at free ⊢
    exact readable.not_holdsToken_quoteIdentifier free

namespace Accepts

variable {d' : Dialect} {free free' : String → Bool}

theorem and (left : d.Accepts free) (right : d.Accepts free') :
    d.Accepts fun s => free s && free' s where
  keyword word := by rw [left.keyword word, right.keyword word, Bool.and_true]
  equation c := by rw [left.equation, right.equation, Bool.and_true]
  number n := by rw [left.number, right.number, Bool.and_true]
  column both := by
    rw [Bool.and_eq_true] at both ⊢
    exact both.imp left.column right.column
  table both := by
    rw [Bool.and_eq_true] at both ⊢
    exact both.imp left.table right.table
  identifier both := by
    rw [Bool.and_eq_true] at both ⊢
    exact both.imp left.identifier right.identifier

/-- Of a dialect, only how it quotes matters. -/
theorem of_quote_eq (accepts : d.Accepts free) (quote : d'.quote = d.quote) : d'.Accepts free where
  keyword := accepts.keyword
  equation := accepts.equation
  number := accepts.number
  column free := by
    rw [quoteColumn, quote]
    exact accepts.column free
  table free := by
    rw [quoteTable, quote]
    exact accepts.table free
  identifier free := by
    rw [quoteIdentifier, quote]
    exact accepts.identifier free

end Accepts

end Dialect

/-- Written in two dialects that quote alike, pieces are related if texts are that keep the rules, parameters,
and templates. -/
theorem Compositional.of_accepts {d d' : Dialect} {r : TextRules} {R : Emitter → Emitter → Prop}
    (embed : Embedding) (quote : d'.quote = d.quote) (accepts : d.Accepts r.name)
    (plain : ∀ {s}, r.name s → R (text s) (text s))
    (operator : ∀ {s}, r.operator s → R (text s) (text s))
    (parameter : ∀ v, R (Emitter.parameter d v) (Emitter.parameter d' v))
    (template : ∀ {sql}, r.template sql → R (Emitter.template d sql) (Emitter.template d' sql))
    (guarded : ∀ fault {a a'}, R a a' → R (Emitter.guarded fault a) (Emitter.guarded fault a'))
    (joined : ∀ kind {a a'}, R a a' →
      R (Emitter.guarded (d.joinFault kind) a) (Emitter.guarded (d'.joinFault kind) a'))
    (append : ∀ {a a' b b'}, R a a' → R b b' → a.Closes ∨ b.Opens → R (a ++ b) (a' ++ b')) :
    Compositional r d (Emitter.reading d' embed) R := by
  constructor
  case keyword => exact fun word => plain (accepts.keyword word)
  case constant =>
    intro holds
    cases holds
    · exact plain (accepts.equation '0')
    · exact plain (accepts.equation '1')
  case number => exact fun n => plain (accepts.number n)
  case operator => exact operator
  case column =>
    intro s free
    change R _ (text (d'.quoteColumn s))
    rw [Dialect.quoteColumn, Dialect.quoteColumn, quote]
    exact plain (accepts.column free)
  case table =>
    intro s free
    change R _ (text (d'.quoteTable s))
    rw [Dialect.quoteTable, Dialect.quoteTable, quote]
    exact plain (accepts.table free)
  case identifier =>
    intro s free
    change R _ (text (d'.quoteIdentifier s))
    rw [Dialect.quoteIdentifier, Dialect.quoteIdentifier, quote]
    exact plain (accepts.identifier free)
  case parameter => exact parameter
  case template => exact template
  case guarded => exact guarded
  case joined => exact joined
  case append => exact append

/-- No text holds what reads as a placeholder, and no template has a digit right behind a marker. -/
def TextRules.tokenFree (d : Dialect) : TextRules where
  name s := !d.holdsToken s
  operator s := !d.holdsToken s
  template sql := !d.spoilsTemplate sql.text
  rawColumn _ sql := !d.holdsToken sql.text

theorem Compositional.of_tokenFree {d : Dialect} (readable : d.Readable)
    {R : Emitter → Emitter → Prop} (raw : Nat → RawSql → Bool) (embed : Embedding)
    (plain : ∀ {s}, d.holdsToken s = false → R (text s) (text s))
    (parameter : ∀ v, R (Emitter.parameter d v) (Emitter.parameter d v))
    (template : ∀ {sql : RawSql}, d.spoilsTemplate sql.text = false →
      R (Emitter.template d sql) (Emitter.template d sql))
    (fail : ∀ e, R (Emitter.fail e) (Emitter.fail e))
    (append : ∀ {a a' b b'}, R a a' → R b b' → a.Closes ∨ b.Opens → R (a ++ b) (a' ++ b')) :
    Compositional { TextRules.tokenFree d with rawColumn := raw } d (Emitter.reading d embed) R := by
  have guarded : ∀ fault {a a' : Emitter}, R a a' →
      R (Emitter.guarded fault a) (Emitter.guarded fault a') := by
    intro fault a a' inner
    cases fault with
    | none => exact inner
    | some e => exact fail e
  have free : ∀ {s}, (!d.holdsToken s) = true → R (text s) (text s) :=
    fun free => plain (by simpa using free)
  exact .of_accepts embed rfl readable.accepts free free parameter
    (fun free => template (by simpa [TextRules.tokenFree] using free)) guarded
    (fun kind => guarded (d.joinFault kind)) append

end SqlSelect
