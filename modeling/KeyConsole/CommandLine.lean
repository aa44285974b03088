import KeyConsole.Error
import KeyConsole.Text.Blank
import KeyConsole.Text.HexEscape
import KeyConsole.Text.Pieces

/-!
# Command lines

A command line is cut into tokens at blanks.  A token is any sequence of bytes:
double quotes group characters and escapes, single quotes group characters as
they stand, and groups and bare characters that touch form one token.
-/

namespace KeyConsole.CommandLine

/-- Why a line has no tokens. -/
inductive Flaw where
  /-- A quote is not closed. -/
  | unbalancedQuote
  /-- `\x` is not followed by two characters that spell a byte. -/
  | badHexEscape
  deriving DecidableEq, Repr

/-- The error that reports a flaw. -/
def Flaw.error : Flaw → Error
  | unbalancedQuote => .invalidArgument "unbalanced quotes in command line"
  | badHexEscape => .invalidArgument "invalid \\x escape in command line"

/-- Where the reading of a line stands. -/
inductive Place where
  /-- Outside quotes, inside a token or between tokens. -/
  | bare
  /-- Inside double quotes. -/
  | double
  /-- Inside single quotes. -/
  | single
  deriving DecidableEq, Repr

/-- The token under way, if there is one, in front of the others. -/
def close (token : Option Bytes) (tokens : List Bytes) : List Bytes :=
  token.toList ++ tokens

/-- Put bytes at the end of the token under way, which begins if there was
none. -/
def extend (token : Option Bytes) (bytes : Bytes) : Option Bytes :=
  some (token.getD [] ++ bytes)

/-- The tokens of the characters that are left, `token` being under way. -/
def scan : Place → Option Bytes → List Char → Except Flaw (List Bytes)
  | .bare, token, [] => .ok (close token [])
  | .double, _, [] => .error .unbalancedQuote
  | .single, _, [] => .error .unbalancedQuote
  | .bare, token, c :: cs =>
    if Text.isBlank c then (scan .bare none cs).map (close token)
    else if c = '"' then scan .double (extend token []) cs
    else if c = '\'' then scan .single (extend token []) cs
    else scan .bare (extend token (Text.encodeChar c)) cs
  | .double, token, '\\' :: 'x' :: high :: low :: cs =>
    match Text.bytePair? high low with
    | some b => scan .double (extend token [b]) cs
    | none => .error .badHexEscape
  | .double, token, '\\' :: c :: cs =>
    if c = 'n' then scan .double (extend token [0x0A]) cs
    else if c = 'r' then scan .double (extend token [0x0D]) cs
    else if c = 't' then scan .double (extend token [0x09]) cs
    else if c = 'x' then .error .badHexEscape
    else scan .double (extend token (Text.encodeChar c)) cs
  | .double, token, c :: cs =>
    if c = '"' then scan .bare token cs
    else if c = '\\' then .error .unbalancedQuote
    else scan .double (extend token (Text.encodeChar c)) cs
  | .single, token, '\\' :: '\'' :: cs => scan .single (extend token [0x27]) cs
  | .single, token, c :: cs =>
    if c = '\'' then scan .bare token cs
    else scan .single (extend token (Text.encodeChar c)) cs

/-- The tokens of a line. -/
def tokens (line : String) : Except Error (List Bytes) :=
  (scan .bare none line.toList).mapError Flaw.error

/-- Whether a line is to be run: it is not empty and no comment. -/
def isCommand (line : String) : Bool :=
  !line.isEmpty && line.toList.head? != some '#'

/-- The lines of a script that are to be run, without the blanks around
them. -/
def commands (script : String) : List String :=
  ((Text.lines script).map Text.trim).filter isCommand

/-- An argument that has to be a text. -/
def argumentText (name : String) (argument : Bytes) : Except Error String :=
  match Text.decode? argument with
  | some text => .ok text
  | none => .error (.invalidArgument (name ++ " is not valid UTF-8"))

/-- An argument that has to be a number. -/
def argumentWord (name : String) (argument : Bytes) : Except Error Nat := do
  let text ← argumentText name argument
  match Text.word? text with
  | some n => .ok n
  | none => .error (.invalidArgument (name ++ " is not a valid number: " ++ text))

/-- Arguments in one line, for messages. -/
def shown (arguments : List Bytes) : String :=
  Text.join " " (arguments.map Text.lossy)

end KeyConsole.CommandLine
