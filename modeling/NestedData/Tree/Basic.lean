import NestedData.Json.Value
/-!
Data trees. A leaf holds a value, a branch holds named children in insertion order; lists are
branches whose children are named by their index. A leaf has no children, so a path goes through
branches only.
-/

namespace NestedData

inductive Tree where
  | leaf (value : Value)
  | branch (children : List (String × Tree))
  deriving Repr

namespace Tree

def empty : Tree := .branch []

instance : Inhabited Tree := ⟨empty⟩

def isBranch : Tree → Bool
  | .branch _ => true
  | .leaf _ => false

def leaf? : Tree → Option Value
  | .leaf v => some v
  | .branch _ => none

def children? : Tree → Option (List (String × Tree))
  | .branch cs => some cs
  | .leaf _ => none

def children (t : Tree) : List (String × Tree) := t.children?.getD []

def child? (t : Tree) (key : String) : Option Tree := t.children?.bind (Dict.get? key)

/-- Follows a path from the root, or tells how many segments of it were found. -/
def walk : List String → Tree → Except Nat Tree
  | [], t => .ok t
  | key :: path, t =>
    match t.child? key with
    | none => .error 0
    | some c => (walk path c).mapError (· + 1)

def find? (path : List String) (t : Tree) : Option Tree := (walk path t).toOption

mutual
def leafCount : Tree → Nat
  | .leaf _ => 1
  | .branch cs => leafCountOf cs

def leafCountOf : List (String × Tree) → Nat
  | [] => 0
  | (_, t) :: rest => leafCount t + leafCountOf rest
end

mutual
/-- Equality of trees, in which the order of children does not count. -/
def same : Tree → Tree → Bool
  | .leaf a, .leaf b => a.same b
  | .branch cs, .branch ds => cs.length = ds.length && sameChildren cs ds
  | _, _ => false

def sameChildren : List (String × Tree) → List (String × Tree) → Bool
  | [], _ => true
  | (k, t) :: rest, ds =>
    (match Dict.get? k ds with
      | some u => same t u
      | none => false) && sameChildren rest ds
end

mutual
def WellFormed : Tree → Prop
  | .leaf _ => True
  | .branch cs => Dict.Distinct cs ∧ WellFormedChildren cs

def WellFormedChildren : List (String × Tree) → Prop
  | [] => True
  | (_, t) :: rest => WellFormed t ∧ WellFormedChildren rest
end

mutual
/-- No leaf of the tree holds a list or an object. -/
def Atomic : Tree → Prop
  | .leaf (.array _) => False
  | .leaf (.object _) => False
  | .leaf _ => True
  | .branch cs => AtomicChildren cs

def AtomicChildren : List (String × Tree) → Prop
  | [] => True
  | (_, t) :: rest => Atomic t ∧ AtomicChildren rest
end

end Tree
end NestedData
