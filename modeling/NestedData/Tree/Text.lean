import NestedData.Tree.Basic
import NestedData.Json.Printer
import NestedData.Json.Reader
/-!
Trees as JSON. Each node is an object with one member that tells a leaf from a branch, so that a
leaf may hold any value and a branch may have any keys.
-/

namespace NestedData.Tree

def leafTag : String := "Scalar"
def branchTag : String := "Container"

mutual
def encode : Tree → Value
  | .leaf v => .object [(leafTag, v)]
  | .branch cs => .object [(branchTag, .object (encodeChildren cs))]

def encodeChildren : List (String × Tree) → List (String × Value)
  | [] => []
  | (k, t) :: rest => (k, encode t) :: encodeChildren rest
end

def text (t : Tree) : String := t.encode.text

open Json (Literal)

mutual
/-- The tree that a literal encodes, nested at most `room` deep. -/
def decode? : Nat → Literal → Option Tree
  | room + 1, .object members => decodeTagged? room members
  | _, _ => none

def decodeTagged? : Nat → List (Option String × Literal) → Option Tree
  | room, [(tag, l)] =>
    if tag = some leafTag then (Literal.value? room l).map .leaf
    else if tag = some branchTag then (decodeChildren? room l).map .branch
    else none
  | _, _ => none

def decodeChildren? : Nat → Literal → Option (List (String × Tree))
  | room + 1, .object members => (decodeEntries? room members).map Dict.ofEntries
  | _, _ => none

def decodeEntries? : Nat → List (Option String × Literal) → Option (List (String × Tree))
  | _, [] => some []
  | room, (key, l) :: rest => do
    let k ← key
    let t ← decode? room l
    let es ← decodeEntries? room rest
    return (k, t) :: es
end

def ofText? (text : String) : Option Tree :=
  (Literal.ofText? text).bind (decode? Json.depthLimit)

end NestedData.Tree
