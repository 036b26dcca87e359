import NestedData.View.Basic
/-!
Writing through a view. Each operation gives the tree that it leaves and whether it went through. A
write without a choice of its own follows the configuration on whether to make what is missing.
-/

namespace NestedData.View

def obstructed (w : View) (full : List String) : Tree.Obstacle → AccessError
  | .leaf before =>
    .notAddressableAt ((full.take before).drop (w.hidden before)) w.config.main
  | .missing before => w.unreachable full.dropLast before

def place (w : View) (path : PathSpec) (node : Tree) (force : Option Bool) (t : Tree) :
    Tree.Edited AccessError :=
  let full := w.absolute path
  (t.write (force.getD w.config.forceCreate) full node).mapError (w.obstructed full)

/-- Writes a value at a path, its keys cut at the delimiters. -/
def set (w : View) (path : PathSpec) (v : Value) (force : Option Bool) (t : Tree) :
    Tree.Edited AccessError :=
  w.place path (.ofValue w.config.delimiters v) force t

def setData (w : View) (v : Value) (t : Tree) : Tree :=
  t.put w.base (.ofValue w.config.delimiters v)

/-- Removes the node at a path; a missing one is an error under the strict policy only. The empty
path empties the addressed node. -/
def unset (w : View) (path : PathSpec) (t : Tree) : Tree.Edited AccessError :=
  if (w.segments path).isEmpty then .done (w.setData (.object []) t)
  else
    let r := t.remove (w.absolute path)
    match r.result with
    | .ok _ => .done r.tree
    | .error found =>
      if w.config.policy = .strict then .stopped r.tree (w.unreachable (w.absolute path) found)
      else .done r.tree

end NestedData.View
