import KeyConsole.Value.Basic
import KeyConsole.Text.Pieces

/-!
# Keys and items

A key is any byte string; keys are ordered byte by byte.  An item is a value
under its key.
-/

namespace KeyConsole

/-- A key. -/
abbrev Key := Bytes

namespace Key

/-- A key as a text, with U+FFFD where it is malformed. -/
def shown (key : Key) : String :=
  Text.lossy key

/-- The value that names a key in a reply. -/
def toValue (key : Key) : Value :=
  Value.ofBytes key

/-- The parts of a key between separators, outermost namespace first. -/
def namespaces (key : Key) (separator : String) : List String :=
  Text.pieces separator key.shown

/-- The keys in ascending order. -/
def inOrder (keys : List Key) : List Key :=
  keys.mergeSort fun first second => decide (first ≤ second)

end Key

/-- A value under its key. -/
structure Item where
  key : Key
  value : Value
  deriving Inhabited

/-- An item of which only the key is known. -/
def Item.skeleton (key : Key) : Item :=
  ⟨key, .null⟩

end KeyConsole
