import NestedData.Json.Value
import NestedData.Json.Token
/-!
Reading JSON. Text is first read as written, into a `Literal` that keeps repeated keys, numbers out
of range and strings without a text. A reader of a known shape looks only at the parts it knows;
reading a `Value` demands that every part denotes something and that nesting stays within bounds.
-/

namespace NestedData
namespace Json

inductive Literal where
  | null
  | bool (b : Bool)
  | number (literal : NumberLiteral)
  | string (content : Option String)
  | array (items : List Literal)
  | object (members : List (Option String × Literal))
  deriving Repr

namespace Literal

def ofWord? (word : List Char) : Option Literal :=
  if word = "null".toList then some .null
  else if word = "true".toList then some (.bool true)
  else if word = "false".toList then some (.bool false)
  else (number? word).map .number

/-- An array or object under construction, its parts last first. -/
inductive Frame where
  | items (parts : List Literal)
  | members (parts : List (Option String × Literal))
  | member (parts : List (Option String × Literal)) (key : Option String)

/-- What the reader expects next, above the frames it has opened. -/
inductive State where
  | value (frames : List Frame)
  | firstPart (frames : List Frame)
  | key (frames : List Frame)
  | colon (frames : List Frame)
  | separator (frames : List Frame)
  | finished (result : Literal)

def give (v : Literal) : List Frame → State
  | [] => .finished v
  | .items parts :: frames => .separator (.items (v :: parts) :: frames)
  | .member parts key :: frames => .separator (.members ((key, v) :: parts) :: frames)
  | .members parts :: frames => .separator (.members parts :: frames)

def stepValue (frames : List Frame) : Token → Option State
  | .openObject => some (.firstPart (.members [] :: frames))
  | .openArray => some (.firstPart (.items [] :: frames))
  | .text content => some (give (.string content) frames)
  | .word w => (ofWord? w).map (give · frames)
  | _ => none

def stepKey : List Frame → Token → Option State
  | .members parts :: frames, .text key => some (.colon (.member parts key :: frames))
  | _, _ => none

def State.step : State → Token → Option State
  | .value frames, t => stepValue frames t
  | .firstPart (.items [] :: frames), .closeArray => some (give (.array []) frames)
  | .firstPart (.members [] :: frames), .closeObject => some (give (.object []) frames)
  | .firstPart (.items parts :: frames), t => stepValue (.items parts :: frames) t
  | .firstPart frames, t => stepKey frames t
  | .key frames, t => stepKey frames t
  | .colon frames, .colon => some (.value frames)
  | .separator (.items parts :: frames), .comma => some (.value (.items parts :: frames))
  | .separator (.items parts :: frames), .closeArray => some (give (.array parts.reverse) frames)
  | .separator (.members parts :: frames), .comma => some (.key (.members parts :: frames))
  | .separator (.members parts :: frames), .closeObject =>
    some (give (.object parts.reverse) frames)
  | _, _ => none

def ofTokens? (tokens : List Token) : Option Literal :=
  match tokens.foldlM State.step (.value []) with
  | some (.finished v) => some v
  | _ => none

def ofText? (text : String) : Option Literal :=
  (Token.scan .between text.toList).bind ofTokens?

mutual
/-- The value that a literal denotes, nested at most `room` deep. A repeated key keeps its first
place and its last value. -/
def value? : Nat → Literal → Option Value
  | _, .null => some .null
  | _, .bool b => some (.bool b)
  | _, .number n => (Number.ofLiteral? n).map .number
  | _, .string content => content.map .string
  | 0, .array _ => none
  | room + 1, .array items => (values? room items).map .array
  | 0, .object _ => none
  | room + 1, .object members => (entries? room members).map fun es => .object (Dict.ofEntries es)

def values? : Nat → List Literal → Option (List Value)
  | _, [] => some []
  | room, l :: rest => do
    let v ← value? room l
    let vs ← values? room rest
    return v :: vs

def entries? : Nat → List (Option String × Literal) → Option (List (String × Value))
  | _, [] => some []
  | room, (key, l) :: rest => do
    let k ← key
    let v ← value? room l
    let es ← entries? room rest
    return (k, v) :: es
end

end Literal

def depthLimit : Nat := 127

end Json

def Value.ofText? (text : String) : Option Value :=
  (Json.Literal.ofText? text).bind (Json.Literal.value? Json.depthLimit)

end NestedData
