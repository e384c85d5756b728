import SqlSelect.Text.Blank
set_option autoImplicit false

/-! Names of columns and tables as callers write them and as SQL wants them: parts joined by dots,
each between quotes, possibly followed by an alias. -/
namespace SqlSelect

/-- A dotted name and the alias it is given. -/
structure Reference where
  parts : List (List Char)
  aliasName : Option (List Char) := none
  deriving DecidableEq

namespace Reference

/-- The parts of a name, cut at every dot. -/
def splitDots (name : List Char) : List (List Char) :=
  name.splitOn '.'

/-- Whether the word is AS in any case. -/
def isAs (word : List Char) : Bool :=
  word.map Char.toUpper = ['A', 'S']

/-- A name without an alias. -/
def ofName (name : List Char) : Reference :=
  { parts := splitDots name }

/-- The parts of a column name; one with a parenthesis in it is a single part. -/
def columnParts (name : List Char) : List (List Char) :=
  if '(' ∈ name then [name] else splitDots name

/-- A column, with an alias when it reads as three words with AS in the middle. -/
def ofColumn (text : List Char) : Reference :=
  let plain : Reference := { parts := columnParts (Text.trimChars text) }
  match Text.wordChars text with
  | [name, middle, aliasName] =>
    if isAs middle then { parts := columnParts name, aliasName := some aliasName } else plain
  | _ => plain

/-- A table, with an alias when it reads as two words, or as three with AS in the middle. -/
def ofTable (text : List Char) : Reference :=
  let plain := ofName (Text.trimChars text)
  match Text.wordChars text with
  | [name, aliasName] => { parts := splitDots name, aliasName := some aliasName }
  | [name, middle, aliasName] =>
    if isAs middle then { parts := splitDots name, aliasName := some aliasName } else plain
  | _ => plain

/-- Doubles every quote. -/
def doubled (quote : Char) (part : List Char) : List Char :=
  part.flatMap fun c => if c = quote then [quote, quote] else [c]

/-- A part between quotes; the wildcard stays bare. -/
def quotedPart (quote : Char) (part : List Char) : List Char :=
  if part = ['*'] then ['*'] else quote :: doubled quote part ++ [quote]

def quotedParts (quote : Char) (parts : List (List Char)) : List Char :=
  ['.'].intercalate (parts.map (quotedPart quote))

/-- The reference as it stands in a statement. -/
def quoted (quote : Char) (r : Reference) : List Char :=
  quotedParts quote r.parts ++
    match r.aliasName with
    | some aliasName => [' ', 'A', 'S', ' '] ++ quotedPart quote aliasName
    | none => []

/-- Cutting a name at its dots loses nothing. -/
theorem intercalate_splitDots (name : List Char) :
    ['.'].intercalate (splitDots name) = name :=
  List.intercalate_splitOn '.'

end Reference

end SqlSelect
