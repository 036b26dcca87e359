import NestedData.Tree.Basic
import NestedData.Path.Nest
/-!
The entries of a tree under joined keys. Branches are opened down to a number of levels; one at the
last level and one without children are entries of their own. A key that follows the empty key is
not joined to it, and of two entries with one key the first place and the last node count.
-/

namespace NestedData.Tree

/-- A key below another; below no key, or below the empty one, it stands alone. -/
def joinKey (delimiter above key : String) : String :=
  if above.isEmpty then key else above ++ delimiter ++ key

mutual
def entriesUnder (delimiter : String) (depth : Depth) (key : String) : Tree → List (String × Tree)
  | .leaf v => [(key, .leaf v)]
  | .branch cs =>
    if depth = .levels 0 ∨ cs.isEmpty then [(key, .branch cs)]
    else entriesBelow delimiter depth key cs

def entriesBelow (delimiter : String) (depth : Depth) (above : String) :
    List (String × Tree) → List (String × Tree)
  | [] => []
  | (k, t) :: rest =>
    entriesUnder delimiter depth.next (joinKey delimiter above k) t ++
      entriesBelow delimiter depth above rest
end

/-- The entries reached within the given depth. A leaf has none, and neither has depth zero. -/
def flatten (delimiter : String) (depth : Depth) (t : Tree) : List (String × Tree) :=
  if depth = .levels 0 then [] else Dict.ofEntries (entriesBelow delimiter depth "" t.children)

end NestedData.Tree
