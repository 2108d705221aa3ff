import Dbml.Json.Lexeme
import Dbml.Json.Value

/-!
# Reading JSON

Reading is done by a machine that takes one lexeme after another and keeps the arrays and
objects that are still open on a stack, so that depth costs it nothing.  It builds a tree of
what is written; whether strings, numbers and depth are acceptable is decided for those parts of
the tree that are turned into values.
-/

namespace Dbml.Json

/-- What a JSON text says, before anything is known about the use of its parts.  A number that
is too large and a string whose escapes do not make up characters are kept without their value.
-/
inductive Node where
  | null
  | bool (b : Bool)
  | number (n : Option Number)
  | string (text : Option String)
  | array (items : List Node)
  | object (fields : List (Option String × Node))
  deriving Repr, Inhabited

/-- An array or object that is still open, with its earlier parts in reverse and, in an object, the
key whose value is being read. -/
inductive Frame where
  | array (items : List Node)
  | object (fields : List (Option String × Node)) (key : Option String)

/-- What has been read last, and so what may come next. -/
inductive Stage where
  /-- A value has to come. -/
  | value
  /-- An array was opened: an item or its end. -/
  | firstItem
  /-- An object was opened: a key or its end. -/
  | firstKey
  /-- A comma stood after these fields: another key. -/
  | nextKey (fields : List (Option String × Node))
  /-- A key stood after these fields: a colon. -/
  | colon (fields : List (Option String × Node)) (key : Option String)
  /-- A value is complete: a comma or the end of what is open. -/
  | complete (node : Node)

/-- The state of the reader. -/
structure Reader where
  frames : List Frame
  stage : Stage

namespace Reader

/-- Takes a lexeme where a value has to come. -/
def takeValue (frames : List Frame) : Lexeme → Option Reader
  | .null => some ⟨frames, .complete .null⟩
  | .bool b => some ⟨frames, .complete (.bool b)⟩
  | .number literal => some ⟨frames, .complete (.number (Number.ofLiteral? literal))⟩
  | .string text => some ⟨frames, .complete (.string text)⟩
  | .openArray => some ⟨.array [] :: frames, .firstItem⟩
  | .openObject => some ⟨frames, .firstKey⟩
  | _ => none

/-- Takes a lexeme after a complete value. -/
def takeAfter (node : Node) : List Frame → Lexeme → Option Reader
  | .array items :: frames, .comma => some ⟨.array (node :: items) :: frames, .value⟩
  | .array items :: frames, .closeArray =>
    some ⟨frames, .complete (.array (node :: items).reverse)⟩
  | .object fields key :: frames, .comma => some ⟨frames, .nextKey ((key, node) :: fields)⟩
  | .object fields key :: frames, .closeObject =>
    some ⟨frames, .complete (.object ((key, node) :: fields).reverse)⟩
  | _, _ => none

/-- Takes one lexeme. -/
def take (reader : Reader) (lexeme : Lexeme) : Option Reader :=
  match reader.stage, lexeme with
  | .value, _ => takeValue reader.frames lexeme
  | .firstItem, .closeArray => some ⟨reader.frames.tail, .complete (.array [])⟩
  | .firstItem, _ => takeValue reader.frames lexeme
  | .firstKey, .closeObject => some ⟨reader.frames, .complete (.object [])⟩
  | .firstKey, .string key => some ⟨reader.frames, .colon [] key⟩
  | .nextKey fields, .string key => some ⟨reader.frames, .colon fields key⟩
  | .colon fields key, .colon => some ⟨.object fields key :: reader.frames, .value⟩
  | .complete node, _ => takeAfter node reader.frames lexeme
  | _, _ => none

/-- What was read, when it is complete and nothing is open. -/
def result? (reader : Reader) : Option Node :=
  match reader.frames, reader.stage with
  | [], .complete node => some node
  | _, _ => none

end Reader

/-- The one value of a JSON text; none when the text is malformed. -/
def read? (text : List Char) : Option Node := do
  let reader ← (← lexemes? text).foldlM Reader.take ⟨[], .value⟩
  reader.result?

namespace Node

mutual

/-- The value of a node that may contain arrays and objects `room` levels deep.  Of fields with the
same key the last one gives the value. -/
def toValue? (room : Nat) : Node → Option Value
  | .null => some .null
  | .bool b => some (.bool b)
  | .number n => n.map .number
  | .string text => text.map .string
  | .array items =>
    match room with
    | 0 => none
    | room + 1 => (toItems? room items).map .array
  | .object fields =>
    match room with
    | 0 => none
    | room + 1 => (toFields? room [] fields).map .object

/-- The values of the items of an array. -/
def toItems? (room : Nat) : List Node → Option (List Value)
  | [] => some []
  | node :: rest => do
    let value ← toValue? room node
    let values ← toItems? room rest
    some (value :: values)

/-- The fields of an object, set one after another. -/
def toFields? (room : Nat) (before : List (String × Value)) :
    List (Option String × Node) → Option (List (String × Value))
  | [] => some before
  | (key, node) :: rest => do
    let key ← key
    let value ← toValue? room node
    toFields? room (Keyed.set key value before) rest

end

end Node

mutual

/-- The node that says a value. -/
def Node.ofValue : Value → Node
  | .null => .null
  | .bool b => .bool b
  | .number n => .number (some n)
  | .string s => .string (some s)
  | .array items => .array (Node.ofItems items)
  | .object fields => .object (Node.ofFields fields)

/-- The nodes of the items of an array. -/
def Node.ofItems : List Value → List Node
  | [] => []
  | value :: rest => Node.ofValue value :: Node.ofItems rest

/-- The nodes of the fields of an object. -/
def Node.ofFields : List (String × Value) → List (Option String × Node)
  | [] => []
  | (key, value) :: rest => (some key, Node.ofValue value) :: Node.ofFields rest

end

/-- The deepest nesting of arrays and objects that is read. -/
def maxDepth : Nat := 127

/-- The value that a JSON text denotes. -/
def Value.read? (text : List Char) : Option Value :=
  (Json.read? text).bind (·.toValue? maxDepth)

end Dbml.Json
