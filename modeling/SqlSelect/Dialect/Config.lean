import SqlSelect.Dialect.Basic
import SqlSelect.Json.Reader
set_option autoImplicit false

/-! The dialects that a configuration can name, as a text or as a JSON value. In JSON a dialect is its bare name,
or an object whose only member has that name and the value null, and the case of the name counts. -/
namespace SqlSelect.Dialect

inductive Kind where
  | postgres
  | generic
  deriving DecidableEq

namespace Kind

instance : Inhabited Kind := ⟨.postgres⟩

/-- The name under which the kind is shown. -/
def name : Kind → String
  | postgres => "postgres"
  | generic => "generic"

def dialect : Kind → Dialect
  | postgres => Dialect.postgres
  | generic => Dialect.generic

/-- The kind of exactly this name, the long name of the first included. -/
def ofName? : String → Option Kind
  | "postgres" => some .postgres
  | "postgresql" => some .postgres
  | "generic" => some .generic
  | _ => none

end Kind

/-- A name, in lower case, that no kind has. -/
structure UnknownKind where
  name : String
  deriving DecidableEq

def UnknownKind.message (e : UnknownKind) : String :=
  "unknown dialect: " ++ e.name

/-- Reads the name of a kind in any case of the ASCII letters. -/
def Kind.parse (text : String) : Except UnknownKind Kind :=
  match Kind.ofName? text.toLower with
  | some kind => .ok kind
  | none => .error ⟨text.toLower⟩

theorem Kind.ofName?_name (kind : Kind) : Kind.ofName? kind.name = some kind := by
  cases kind <;> rfl

def Kind.ofJson? : Json → Option Kind
  | .string name => Kind.ofName? name
  | .object [(name, .null)] => Kind.ofName? name
  | _ => none

def Kind.ofConfig? (text : String) : Option Kind :=
  (Json.parse? text).bind Kind.ofJson?

end SqlSelect.Dialect
