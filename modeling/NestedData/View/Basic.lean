import NestedData.Config
import NestedData.Tree.Values
import NestedData.Tree.Flatten
/-!
Views of a tree. A view has a base path and a configuration, and addresses the node at the base;
the tree itself is given to every operation, so that several views may look at one tree. A view of
the whole tree has the empty base. Errors name segments relative to the view as long as its own base
can be followed.
-/

namespace NestedData

inductive AccessError where
  /-- A path could be followed through the covered segments and no further. -/
  | unreachable (covered remaining : List String) (delimiter : String)
  /-- A leaf stands where children are to be written. -/
  | notAddressable (path : String)
  deriving DecidableEq, Repr

namespace AccessError

def notAddressableAt (segments : List String) (delimiter : String) : AccessError :=
  .notAddressable (Text.join delimiter segments)

def isPartial : AccessError → Bool
  | .unreachable covered .. => !covered.isEmpty
  | .notAddressable _ => false

def fullPath : AccessError → List String
  | .unreachable covered remaining _ => covered ++ remaining
  | .notAddressable _ => []

def message : AccessError → String
  | .unreachable covered remaining delimiter =>
    let rest := Text.join delimiter remaining
    if covered.isEmpty then "The path '" ++ rest ++ "' cannot be covered"
    else
      "The path '" ++ Text.join delimiter covered ++ "' has been covered but not '" ++ rest ++ "'"
  | .notAddressable path => "element at '" ++ path ++ "' must be addressable"

end AccessError

structure View where
  base : List String := []
  config : Config := {}
  deriving DecidableEq, Repr

namespace View

def segments (w : View) (path : PathSpec) : List String := path.segments w.config.delimiters

def absolute (w : View) (path : PathSpec) : List String := w.base ++ w.segments path

/-- How many segments of an absolute path an error leaves out, when `covered` of it were found. -/
def hidden (w : View) (covered : Nat) : Nat :=
  if w.base.length ≤ covered then w.base.length else 0

def unreachable (w : View) (full : List String) (covered : Nat) : AccessError :=
  .unreachable ((full.take covered).drop (w.hidden covered)) (full.drop covered) w.config.main

/-- The node at a path, or how far the path can be followed. -/
def lookup (w : View) (path : PathSpec) (t : Tree) : Except AccessError Tree :=
  let full := w.absolute path
  (t.walk full).mapError (w.unreachable full)

def find? (w : View) (path : PathSpec) (t : Tree) : Option Tree := t.find? (w.absolute path)

/-- The node at a path; a missing one is an error under the strict policy only. -/
def get (w : View) (path : PathSpec) (t : Tree) : Except AccessError (Option Tree) :=
  match w.lookup path t with
  | .ok node => .ok (some node)
  | .error e => if w.config.policy = .strict then .error e else .ok none

def value? (w : View) (path : PathSpec) (t : Tree) : Option Value :=
  (w.find? path t).map Tree.toValue

def holds (w : View) (path : PathSpec) (t : Tree) : Bool := (w.find? path t).isSome

def narrow (w : View) (path : PathSpec) (t : Tree) : Except AccessError View :=
  match w.config.policy, w.lookup path t with
  | .strict, .error e => .error e
  | _, _ => .ok { w with base := w.absolute path }

/-- The addressed node; a view of a missing one reads as empty. -/
def data (w : View) (t : Tree) : Tree := (t.find? w.base).getD .empty

def toValue (w : View) (t : Tree) : Value := (w.data t).toValue

def isEmpty (w : View) (t : Tree) : Bool :=
  match w.data t with
  | .branch cs => cs.isEmpty
  | .leaf _ => false

def count (w : View) (t : Tree) : Nat := (w.data t).leafCount

def keys (w : View) (depth : Depth) (t : Tree) : List String :=
  Dict.keys ((w.data t).flatten w.config.main depth)

/-- The children of the addressed node; a leaf is its own only entry. -/
def entries (w : View) (t : Tree) : List (String × Tree) :=
  match w.data t with
  | .branch cs => cs
  | .leaf v => [(Tree.indexKey 0, .leaf v)]

end View
end NestedData
