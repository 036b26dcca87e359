import NestedData.Tree.Basic
/-!
Writing into trees and removing from them. The last segment of a path is overwritten, never merged.
A forced write makes what is missing on the way and turns leaves into branches; an unforced one
stops at the first such obstacle. An edit changes the tree on its way down the path, so that one
that stops gives back the tree as it has left it.
-/

namespace NestedData.Tree

/-- What stops an unforced write, and how many segments lie before it. -/
inductive Obstacle where
  | leaf (before : Nat)
  | missing (before : Nat)
  deriving DecidableEq, Repr

def Obstacle.deeper : Obstacle → Obstacle
  | .leaf n => .leaf (n + 1)
  | .missing n => .missing (n + 1)

/-- Puts a node at a path, making branches of whatever is on the way. -/
def put : Tree → List String → Tree → Tree
  | _, [], node => node
  | t, key :: path, node =>
    .branch (Dict.insert key (put ((t.child? key).getD empty) path node) t.children)

/-- The tree that an edit leaves, and whether the edit went through. -/
structure Edited (ε : Type) where
  tree : Tree
  result : Except ε Unit

namespace Edited

variable {ε ε' : Type}

def done (t : Tree) : Edited ε := ⟨t, .ok ()⟩

def stopped (t : Tree) (e : ε) : Edited ε := ⟨t, .error e⟩

def mapError (f : ε → ε') (r : Edited ε) : Edited ε' := ⟨r.tree, r.result.mapError f⟩

def ofChild (key : String) (children : List (String × Tree)) (r : Edited ε) : Edited ε :=
  ⟨.branch (Dict.insert key r.tree children), r.result⟩

end Edited

def write (force : Bool) : Tree → List String → Tree → Edited Obstacle
  | _, [], node => .done node
  | t, key :: path, node =>
    if !t.isBranch && !force then .stopped t (.leaf 0)
    else
      -- A leaf has become a branch without children here.
      match path, t.child? key with
      | [], _ => .done (.branch (Dict.insert key node t.children))
      | _ :: _, some c => ((write force c path node).mapError .deeper).ofChild key t.children
      | _ :: _, none =>
        if force then ((write force empty path node).mapError .deeper).ofChild key t.children
        else .stopped (.branch t.children) (.missing 0)

/-- Removes the node at a path of at least one segment, or tells how many segments were found. -/
def remove : List String → Tree → Edited Nat
  | [], t => .stopped t 0
  | key :: path, t =>
    match path, t.child? key with
    | _, none => .stopped t 0
    | [], some _ => .done (.branch (Dict.erase key t.children))
    | _ :: _, some c => ((remove path c).mapError (· + 1)).ofChild key t.children

end NestedData.Tree
