import KeyConsole.Error
import KeyConsole.Json.Grammar
import KeyConsole.Double.Basic
import KeyConsole.Text.Utf8

/-!
# Values

Everything that can be stored under a key or replied by a command.  A value
has one of fourteen kinds; collections keep the order in which they were
built.
-/

namespace KeyConsole

/-- The kinds of values. -/
inductive ValueKind where
  | null
  | boolean
  | integer
  | double
  | string
  | byteArray
  | array
  | set
  | scoredSet
  | hash
  | json
  | graph
  | searchIndex
  | searchTerm
  deriving DecidableEq, Repr, Inhabited

namespace ValueKind

/-- The name of a kind as users know it. -/
def name : ValueKind → String
  | null => "null"
  | boolean => "boolean"
  | integer => "integer"
  | double => "double"
  | string => "string"
  | byteArray => "byte_array"
  | array => "array"
  | set => "set"
  | scoredSet => "zset"
  | hash => "hash"
  | json => "json"
  | graph => "graph"
  | searchIndex => "ft_index"
  | searchTerm => "ft_term"

/-- Every kind. -/
def all : List ValueKind :=
  [null, boolean, integer, double, string, byteArray, array, set, scoredSet, hash,
    json, graph, searchIndex, searchTerm]

/-- The kind that a name stands for. -/
def ofName? (name : String) : Option ValueKind :=
  all.find? fun kind => kind.name == name

end ValueKind

/-- A value. -/
inductive Value where
  /-- The absent value. -/
  | null
  | boolean (value : Bool)
  | integer (value : Int64)
  | double (value : Double)
  | string (text : String)
  | byteArray (bytes : Bytes)
  | array (items : List Value)
  /-- Members without regard to their order. -/
  | set (members : List Value)
  /-- Members with their scores. -/
  | scoredSet (members : List (Value × Double))
  /-- Fields with their values. -/
  | hash (fields : List (Value × Value))
  /-- A text of JSON. -/
  | json (text : String)
  /-- A graph, whose contents are not shown. -/
  | graph
  /-- A search index, whose contents are not shown. -/
  | searchIndex
  /-- A search term, whose contents are not shown. -/
  | searchTerm
  deriving Inhabited

namespace Value

/-- Induction on values: what holds of a collection whenever it holds of the
values in it, and of everything else, holds of every value. -/
@[elab_as_elim, induction_eliminator]
theorem induction {motive : Value → Prop} (null : motive null)
    (boolean : ∀ value, motive (boolean value)) (integer : ∀ value, motive (integer value))
    (double : ∀ value, motive (double value)) (string : ∀ text, motive (string text))
    (byteArray : ∀ bytes, motive (byteArray bytes))
    (array : ∀ items, (∀ item ∈ items, motive item) → motive (array items))
    (set : ∀ members, (∀ member ∈ members, motive member) → motive (set members))
    (scoredSet : ∀ members : List (Value × Double), (∀ member ∈ members, motive member.1) →
      motive (scoredSet members))
    (hash : ∀ fields : List (Value × Value),
      (∀ field ∈ fields, motive field.1 ∧ motive field.2) → motive (hash fields))
    (json : ∀ text, motive (json text)) (graph : motive graph) (searchIndex : motive searchIndex)
    (searchTerm : motive searchTerm) (value : Value) : motive value :=
  Value.rec null boolean integer double string byteArray array set scoredSet hash json graph
    searchIndex searchTerm (List.forall_mem_nil _)
    (fun _ _ head tail => List.forall_mem_cons.2 ⟨head, tail⟩) (List.forall_mem_nil _)
    (fun _ _ head tail => List.forall_mem_cons.2 ⟨head, tail⟩) (List.forall_mem_nil _)
    (fun _ _ head tail => List.forall_mem_cons.2 ⟨head, tail⟩) (fun _ _ member => member)
    (fun _ _ field value => ⟨field, value⟩) value

/-- The kind of a value. -/
def kind : Value → ValueKind
  | null => .null
  | boolean _ => .boolean
  | integer _ => .integer
  | double _ => .double
  | string _ => .string
  | byteArray _ => .byteArray
  | array _ => .array
  | set _ => .set
  | scoredSet _ => .scoredSet
  | hash _ => .hash
  | json _ => .json
  | graph => .graph
  | searchIndex => .searchIndex
  | searchTerm => .searchTerm

/-- The empty value of a kind. -/
def emptyOf : ValueKind → Value
  | .null => null
  | .boolean => boolean false
  | .integer => integer 0
  | .double => double Double.zero
  | .string => string ""
  | .byteArray => byteArray []
  | .array => array []
  | .set => set []
  | .scoredSet => scoredSet []
  | .hash => hash []
  | .json => json "\x7b\x7d"
  | .graph => graph
  | .searchIndex => searchIndex
  | .searchTerm => searchTerm

/-- The reply of a command that has nothing else to say. -/
def ok : Value := string "OK"

/-- A string if the bytes are well-formed UTF-8, else a byte array. -/
def ofBytes (bytes : Bytes) : Value :=
  match Text.decode? bytes with
  | some text => string text
  | none => byteArray bytes

/-- A JSON value, if the text is JSON. -/
def ofJson (text : String) : Except Error Value :=
  if Json.isValid text then .ok (json text)
  else .error (.invalidArgument ("invalid json: " ++ text))

/-- The text of a string or of JSON. -/
def text? : Value → Option String
  | string text => some text
  | json text => some text
  | _ => none

/-- The number of an integer, or the one that a string spells. -/
def integer? : Value → Option Int64
  | integer value => some value
  | string text => Text.int64? text
  | _ => none

/-- The items of an array. -/
def items? : Value → Option (List Value)
  | array items => some items
  | _ => none

/-- Whether a value is the absent one. -/
def isNull : Value → Bool
  | null => true
  | _ => false

end Value

end KeyConsole
