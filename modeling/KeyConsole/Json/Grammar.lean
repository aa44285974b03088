import KeyConsole.Json.Token

/-!
# JSON grammar

A text is JSON when its tokens are one value.  The values that are open at a
point are kept on a stack, which may hold at most 127 of them.
-/

namespace KeyConsole.Json

/-- What may come next inside one open value. -/
inductive Open where
  /-- An array after its bracket: a value or the end. -/
  | arrayStart
  /-- An array after a comma: a value. -/
  | arrayItem
  /-- An array after a value: a comma or the end. -/
  | arrayRest
  /-- An object after its brace: a name or the end. -/
  | objectStart
  /-- An object after a comma: a name. -/
  | objectName
  /-- An object after a name: a colon. -/
  | objectColon
  /-- An object after a colon: a value. -/
  | objectValue
  /-- An object after a value: a comma or the end. -/
  | objectRest
  deriving DecidableEq, Repr

/-- How deep values may nest. -/
def maxDepth : Nat := 127

/-- The state of reading: the open values, innermost first, and whether the
outermost value is complete. -/
structure Reading where
  stack : List Open
  complete : Bool

/-- The state after a whole value. -/
def Reading.afterValue (stack : List Open) : Option Reading :=
  match stack with
  | [] => some ⟨[], true⟩
  | .arrayStart :: rest => some ⟨.arrayRest :: rest, false⟩
  | .arrayItem :: rest => some ⟨.arrayRest :: rest, false⟩
  | .objectValue :: rest => some ⟨.objectRest :: rest, false⟩
  | _ => none

/-- Whether a value may come next. -/
def Reading.admitsValue (reading : Reading) : Bool :=
  match reading.stack with
  | [] => !reading.complete
  | top :: _ => top == .arrayStart || top == .arrayItem || top == .objectValue

/-- Open a value inside the others. -/
def Reading.enter (reading : Reading) (value : Open) : Option Reading :=
  if reading.admitsValue && reading.stack.length < maxDepth then
    some ⟨value :: reading.stack, false⟩
  else none

/-- Read one token. -/
def Reading.step (reading : Reading) (token : Token) : Option Reading :=
  match token, reading.stack with
  | .openBracket, _ => reading.enter .arrayStart
  | .openBrace, _ => reading.enter .objectStart
  | .closeBracket, .arrayStart :: rest => afterValue rest
  | .closeBracket, .arrayRest :: rest => afterValue rest
  | .closeBrace, .objectStart :: rest => afterValue rest
  | .closeBrace, .objectRest :: rest => afterValue rest
  | .comma, .arrayRest :: rest => some ⟨.arrayItem :: rest, false⟩
  | .comma, .objectRest :: rest => some ⟨.objectName :: rest, false⟩
  | .colon, .objectColon :: rest => some ⟨.objectValue :: rest, false⟩
  | .text, .objectStart :: rest => some ⟨.objectColon :: rest, false⟩
  | .text, .objectName :: rest => some ⟨.objectColon :: rest, false⟩
  | .text, stack => if reading.admitsValue then afterValue stack else none
  | .atom, stack => if reading.admitsValue then afterValue stack else none
  | _, _ => none

/-- Whether a text is well-formed JSON. -/
def isValid (text : String) : Bool :=
  match tokens? text with
  | none => false
  | some tokens =>
    match tokens.foldlM Reading.step ⟨[], false⟩ with
    | none => false
    | some reading => reading.complete && reading.stack.isEmpty

end KeyConsole.Json
