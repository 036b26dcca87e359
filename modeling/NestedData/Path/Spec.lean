import NestedData.Path.Nest
import NestedData.Text.Search
import NestedData.Json.Value
/-!
Paths as callers give them, and the segments they stand for. A path is a nested list of fragments:
delimited text, which is cut, and atoms, which are not. The first delimiter is the main one; every
other is replaced by it before a text is cut.
-/

namespace NestedData

inductive Fragment where
  | empty
  | text (s : String)
  | atom (s : String)
  deriving DecidableEq, Repr

abbrev PathSpec := Nest Fragment

namespace Fragment

/-- Nothing at all, as opposed to an empty segment. -/
def isEmpty : Fragment → Bool
  | .empty => true
  | .text s => s.isEmpty
  | .atom _ => false

/-- Every delimiter but the main one is replaced by the main one, in their order. -/
def fold (main : List Char) (others : List String) (text : List Char) : List Char :=
  others.foldl (fun t d => if d.isEmpty then t else Text.substitute d.toList main t) text

/-- A text is cut at its delimiters; without a main delimiter it is one segment. -/
def cut (delimiters : List String) (s : String) : List String :=
  match delimiters with
  | [] => [s]
  | main :: others =>
    if main.isEmpty then [s]
    else (Text.cutAt main.toList (fold main.toList others s.toList)).map String.ofList

def segments (delimiters : List String) : Fragment → List String
  | .empty => []
  | .atom s => [s]
  | .text s => cut delimiters s

end Fragment

namespace PathSpec

def empty : PathSpec := .item .empty
def text (s : String) : PathSpec := .item (.text s)
def atom (s : String) : PathSpec := .item (.atom s)

def ofSegments (segments : List String) : PathSpec := .list (segments.map atom)

def isEmpty (spec : PathSpec) : Bool := (Nest.leaves spec).all Fragment.isEmpty

def join (spec other : PathSpec) : PathSpec :=
  match spec with
  | .item .empty => other
  | .list items => .list (items ++ [other])
  | single => .list [single, other]

/-- The segments of a path. An empty path has none; in any other path an empty text is an empty
segment. -/
def segments (delimiters : List String) (spec : PathSpec) : List String :=
  if spec.isEmpty then []
  else (Nest.leaves spec).flatMap (Fragment.segments delimiters)

mutual
/-- Strings are delimited text, lists and the values of objects are nested paths, null is the empty
path and every other scalar is an atom. -/
def ofValue : Value → PathSpec
  | .null => empty
  | .bool b => atom (if b then "true" else "false")
  | .number n => atom (String.ofList n.text)
  | .string s => text s
  | .array items => .list (ofItems items)
  | .object members => .list (ofMembers members)

def ofItems : List Value → List PathSpec
  | [] => []
  | v :: rest => ofValue v :: ofItems rest

def ofMembers : List (String × Value) → List PathSpec
  | [] => []
  | (_, v) :: rest => ofValue v :: ofMembers rest
end

end PathSpec

namespace Value

mutual
def nest : Value → Nest Value
  | .array items => .list (nestItems items)
  | v => .item v

def nestItems : List Value → List (Nest Value)
  | [] => []
  | v :: rest => nest v :: nestItems rest
end

mutual
def ofNest : Nest Value → Value
  | .item v => v
  | .list items => .array (ofNests items)

def ofNests : List (Nest Value) → List Value
  | [] => []
  | n :: rest => ofNest n :: ofNests rest
end

def spread (depth : Depth) (vs : List Value) : List Value :=
  ofNests (Nest.spread depth (nestItems vs))

end Value
end NestedData
