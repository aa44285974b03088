import KeyConsole.Value.Basic
import KeyConsole.Double.Shortest
import KeyConsole.Text.Blank
import KeyConsole.Text.HexEscape
import KeyConsole.Text.Pieces

/-!
# Texts of values

A value is written for reading or for a command line.  In a command line every
leaf is one token: a string is quoted when it would not be one, and bytes are
written as hex escapes in quotes.  Collections are written flat, their members
joined by a delimiter.
-/

namespace KeyConsole.Value

/-- For whom a value is written. -/
inductive Style where
  /-- For a reader. -/
  | plain
  /-- For a command line. -/
  | command
  deriving DecidableEq, Repr

/-- A character inside double quotes. -/
def quotedChar (c : Char) : List Char :=
  if c = '"' then ['\\', '"']
  else if c = '\\' then ['\\', '\\']
  else if c = '\n' then ['\\', 'n']
  else if c = '\r' then ['\\', 'r']
  else if c = '\t' then ['\\', 't']
  else [c]

/-- Put a text between double quotes. -/
def quote (text : String) : String :=
  String.ofList ('"' :: (text.toList.flatMap quotedChar ++ ['"']))

/-- Whether a text is a token of a command line as it stands. -/
def isBareToken (text : String) : Bool :=
  !text.isEmpty &&
    text.toList.all fun c => !Text.isBlank c && c != '"' && c != '\''

/-- A text as one token of a command line. -/
def tokenText (text : String) : String :=
  if isBareToken text then text else quote text

/-- Bytes for a reader: their text if they are one without control
characters, else hex escapes. -/
def plainBytes (bytes : Bytes) : String :=
  match Text.decode? bytes with
  | some text =>
    if text.toList.any Text.isControl then Text.hexEscape bytes else text
  | none => Text.hexEscape bytes

/-- The text of a string leaf. -/
def leafText (style : Style) (text : String) : String :=
  match style with
  | .plain => text
  | .command => tokenText text

/-- The text of a byte leaf. -/
def leafBytes (style : Style) (bytes : Bytes) : String :=
  match style with
  | .plain => plainBytes bytes
  | .command => "\"" ++ Text.hexEscape bytes ++ "\""

mutual

/-- The text of a value, with the members of collections joined by
`delimiter`. -/
def render (delimiter : String) (style : Style) : Value → String
  | null => ""
  | boolean value => if value then "true" else "false"
  | integer value => Text.integer value.toInt
  | double value => value.text
  | string text => leafText style text
  | json text => leafText style text
  | byteArray bytes => leafBytes style bytes
  | array items => Text.join delimiter (renderItems delimiter style items)
  | set members => Text.join delimiter (renderItems delimiter style members)
  | scoredSet members => Text.join delimiter (renderScored delimiter style members)
  | hash fields => Text.join delimiter (renderFields delimiter style fields)
  | graph => ""
  | searchIndex => ""
  | searchTerm => ""

/-- The texts of values in turn. -/
def renderItems (delimiter : String) (style : Style) : List Value → List String
  | [] => []
  | item :: items => render delimiter style item :: renderItems delimiter style items

/-- The texts of scored members in turn: the member, a space, the score. -/
def renderScored (delimiter : String) (style : Style) : List (Value × Double) → List String
  | [] => []
  | (member, score) :: members =>
    (render delimiter style member ++ " " ++ score.text)
      :: renderScored delimiter style members

/-- The texts of fields in turn: the field, a space, its value. -/
def renderFields (delimiter : String) (style : Style) : List (Value × Value) → List String
  | [] => []
  | (field, value) :: fields =>
    (render delimiter style field ++ " " ++ render delimiter style value)
      :: renderFields delimiter style fields

end

/-- The text of a reply: the absent value is named, the others are written for
a reader. -/
def display (delimiter : String) : Value → String
  | null => "(nil)"
  | value => render delimiter .plain value

end KeyConsole.Value
