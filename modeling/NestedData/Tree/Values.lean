import NestedData.Tree.Edit
import NestedData.Path.Spec
/-!
Trees of values and values of trees. The keys of an object are paths: each is cut at the delimiters,
and the members are put into the tree in order, so that a later one overwrites what an earlier one
left at its path. Without delimiters the tree has the structure of the value. In the other
direction a branch whose keys count from zero is a list.
-/

namespace NestedData.Tree

/-- The path that a key stands for; the empty key is one empty segment. -/
def keySegments (delimiters : List String) (key : String) : List String :=
  match PathSpec.segments delimiters (.text key) with
  | [] => [key]
  | segments => segments

def indexKey (n : Nat) : String := n.repr

mutual
def ofValue (delimiters : List String) : Value → Tree
  | .object members => putMembers delimiters members empty
  | .array items => .branch (ofItems delimiters 0 items)
  | .null => .leaf .null
  | .bool b => .leaf (.bool b)
  | .number n => .leaf (.number n)
  | .string s => .leaf (.string s)

def ofItems (delimiters : List String) (n : Nat) : List Value → List (String × Tree)
  | [] => []
  | v :: rest => (indexKey n, ofValue delimiters v) :: ofItems delimiters (n + 1) rest

def putMembers (delimiters : List String) : List (String × Value) → Tree → Tree
  | [], t => t
  | (k, v) :: rest, t =>
    putMembers delimiters rest (put t (keySegments delimiters k) (ofValue delimiters v))
end

def countsFrom (n : Nat) : List String → Bool
  | [] => true
  | k :: rest => k = indexKey n && countsFrom (n + 1) rest

/-- A list is a branch with at least one child and the keys of a list in their order. -/
def isList (children : List (String × Tree)) : Bool :=
  !children.isEmpty && countsFrom 0 (Dict.keys children)

mutual
def toValue : Tree → Value
  | .leaf v => v
  | .branch cs => if isList cs then .array (childValues cs) else .object (childMembers cs)

def childValues : List (String × Tree) → List Value
  | [] => []
  | (_, t) :: rest => toValue t :: childValues rest

def childMembers : List (String × Tree) → List (String × Value)
  | [] => []
  | (k, t) :: rest => (k, toValue t) :: childMembers rest
end

def denotes (t : Tree) (v : Value) : Bool := t.toValue.same v

end NestedData.Tree
