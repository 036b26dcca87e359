/-!
Nested lists and how far they are opened. `spread depth` replaces each list by its items, left to
right, down to the given number of levels; items that are not lists stay as they are.
-/

namespace NestedData

inductive Nest (α : Type) where
  | item (a : α)
  | list (items : List (Nest α))
  deriving Repr

inductive Depth where
  | unbounded
  | levels (n : Nat)
  deriving DecidableEq, Repr

/-- Negative numbers stand for no bound. -/
def Depth.ofInt (n : Int) : Depth := if n < 0 then .unbounded else .levels n.toNat

def Depth.next : Depth → Depth
  | .unbounded => .unbounded
  | .levels n => .levels (n - 1)

namespace Nest

variable {α : Type}

mutual
def spreadOne (depth : Depth) : Nest α → List (Nest α)
  | .item a => [.item a]
  | .list items => if depth = .levels 0 then [.list items] else spread depth.next items

def spread (depth : Depth) : List (Nest α) → List (Nest α)
  | [] => []
  | x :: xs => spreadOne depth x ++ spread depth xs
end

mutual
def leaves : Nest α → List α
  | .item a => [a]
  | .list items => leavesOf items

def leavesOf : List (Nest α) → List α
  | [] => []
  | x :: xs => leaves x ++ leavesOf xs
end

end Nest
end NestedData
