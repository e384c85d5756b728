import SqlSelect.Json.Token
set_option autoImplicit false

/-! JSON texts read by an automaton that keeps the containers still open on a stack. A text may nest
no deeper than the reader allows. -/
namespace SqlSelect.Json

/-- A container still open, with what it holds so far, last first; an object with the name of the
member under way. -/
inductive Frame where
  | array (items : List Json)
  | object (members : List (String × Json)) (name : String)

/-- What may come next. -/
inductive Expected where
  | value
  /-- A value, or the end of an array just opened. -/
  | item
  /-- The name of a member. -/
  | name
  /-- The name of a member, or the end of an object just opened. -/
  | member
  | colon
  /-- A comma or the end of the innermost container. -/
  | separator
  | nothing (result : Json)

structure State where
  frames : List Frame
  expected : Expected

/-- The deepest nesting of containers that is read. -/
def maxDepth : Nat := 127

/-- The state after a complete value. -/
def State.finish (value : Json) : List Frame → State
  | [] => ⟨[], .nothing value⟩
  | .array items :: rest => ⟨.array (value :: items) :: rest, .separator⟩
  | .object members name :: rest => ⟨.object ((name, value) :: members) name :: rest, .separator⟩

/-- The state inside a container just opened, unless it lies too deep. -/
def State.enter? (frames : List Frame) (frame : Frame) (expected : Expected) : Option State :=
  if frames.length < maxDepth then some ⟨frame :: frames, expected⟩ else none

/-- The state after a token that starts a value. -/
def State.value? (frames : List Frame) : Token → Option State
  | .scalar v => some (.finish v frames)
  | .openArray => State.enter? frames (.array []) .item
  | .openObject => State.enter? frames (.object [] "") .member
  | _ => none

/-- The state after one more token. -/
def State.step? (s : State) (t : Token) : Option State :=
  match s.expected, t, s.frames with
  | .value, t, frames => State.value? frames t
  | .item, .closeArray, .array items :: rest => some (.finish (.array items.reverse) rest)
  | .item, t, frames => State.value? frames t
  | .member, .closeObject, .object members _ :: rest =>
    some (.finish (.object members.reverse) rest)
  | .member, .scalar (.string name), .object members _ :: rest
  | .name, .scalar (.string name), .object members _ :: rest =>
    some ⟨.object members name :: rest, .colon⟩
  | .colon, .colon, frames => some ⟨frames, .value⟩
  | .separator, .comma, .array items :: rest => some ⟨.array items :: rest, .value⟩
  | .separator, .comma, .object members name :: rest => some ⟨.object members name :: rest, .name⟩
  | .separator, .closeArray, .array items :: rest => some (.finish (.array items.reverse) rest)
  | .separator, .closeObject, .object members _ :: rest =>
    some (.finish (.object members.reverse) rest)
  | _, _, _ => none

/-- The value that a whole text denotes. -/
def parse? (text : String) : Option Json := do
  let tokens ← tokens? text.toList
  let final ← tokens.foldlM State.step? ⟨[], .value⟩
  match final.expected with
  | .nothing result => some result
  | _ => none

end SqlSelect.Json
