import KeyConsole.Value.Basic

/-!
# Equality of values

Values are equal when they have one kind and equal contents, numbers being
compared as numbers.  Two sets are equal when they have one length and each
member of either has an equal in the other.
-/

namespace KeyConsole.Value

mutual

/-- Whether two values are equal. -/
def same : Value → Value → Bool
  | null, null => true
  | boolean a, boolean b => a == b
  | integer a, integer b => a == b
  | double a, double b => a.numEq b
  | string a, string b => a == b
  | byteArray a, byteArray b => a == b
  | array xs, array ys => sameItems xs ys
  | set xs, set ys => xs.length == ys.length && coveredBy xs ys && ys.all (hasEqual xs)
  | scoredSet xs, scoredSet ys => sameScored xs ys
  | hash xs, hash ys => sameFields xs ys
  | json a, json b => a == b
  | graph, graph => true
  | searchIndex, searchIndex => true
  | searchTerm, searchTerm => true
  | _, _ => false

/-- Whether two lists are equal item by item. -/
def sameItems : List Value → List Value → Bool
  | [], [] => true
  | x :: xs, y :: ys => same x y && sameItems xs ys
  | _, _ => false

/-- Whether every item of the first list has an equal in the second. -/
def coveredBy : List Value → List Value → Bool
  | [], _ => true
  | x :: xs, ys => ys.any (same x) && coveredBy xs ys

/-- Whether a list has an item equal to a value. -/
def hasEqual : List Value → Value → Bool
  | [], _ => false
  | x :: xs, y => same x y || hasEqual xs y

/-- Whether two lists of scored members are equal pair by pair. -/
def sameScored : List (Value × Double) → List (Value × Double) → Bool
  | [], [] => true
  | (x, s) :: xs, (y, t) :: ys => same x y && s.numEq t && sameScored xs ys
  | _, _ => false

/-- Whether two lists of fields are equal pair by pair. -/
def sameFields : List (Value × Value) → List (Value × Value) → Bool
  | [], [] => true
  | (x, v) :: xs, (y, w) :: ys => same x y && same v w && sameFields xs ys
  | _, _ => false

end

instance : BEq Value := ⟨same⟩

/-- Keep the first of the values that are equal to each other; `kept` are the
values kept so far. -/
def distinctFrom (kept : List Value) : List Value → List Value
  | [] => kept
  | x :: xs => distinctFrom (if hasEqual kept x then kept else kept ++ [x]) xs

/-- The set of the given members, repeated ones dropped and the others in the
order of their first occurrence. -/
def setOf (members : List Value) : Value :=
  set (distinctFrom [] members)

end KeyConsole.Value
