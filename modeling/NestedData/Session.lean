import NestedData.View.Write
import NestedData.Snapshot
/-!
Sessions: several handles on several trees. A handle is a view of one of the trees; narrowing a
handle gives another on the same tree, and every other way to get a handle gives it a tree of its
own. A command goes through one handle and gives the session that it leaves and whether it went
through. Trees and handles are only added, so their positions are their names.
-/

namespace NestedData

structure Handle where
  /-- The position of the tree it looks at. -/
  tree : Nat
  view : View
  /-- Whether the delimiter is fixed to the dot. -/
  dotted : Bool := false
  deriving DecidableEq, Repr

structure Session where
  trees : List Tree
  handles : List Handle
  deriving Repr

inductive Command where
  | set (path : PathSpec) (value : Value) (force : Option Bool)
  | place (path : PathSpec) (node : Tree)
  | unset (path : PathSpec)
  | setData (value : Value)
  | setForceCreate (forceCreate : Bool)
  | setPolicy (policy : Policy)
  | addDelimiters (delimiters : List String)
  /-- A handle on the node at a path of the same tree. -/
  | narrow (path : PathSpec)
  /-- A handle on a copy of the addressed node. -/
  | detach
  /-- A handle without the fixed delimiter. It is a copy of the handle that is unwrapped, on a copy
  of the addressed node, and the handle stays; unwrapping the handle itself would move it as it is,
  on the tree that it looks at. -/
  | unwrap
  /-- A handle on a new tree with the same configuration. -/
  | sibling (value : Value)
  /-- A handle on the tree of a snapshot. -/
  | restore (snapshot : Snapshot)
  deriving Repr

inductive CommandError where
  | noHandle
  | unsupported
  | access (e : AccessError)
  deriving DecidableEq, Repr

namespace Session

def ofTree (t : Tree) (config : Config) (dotted : Bool) : Session :=
  ⟨[t], [⟨0, ⟨[], config⟩, dotted⟩]⟩

def handle? (s : Session) (i : Nat) : Option Handle := s.handles[i]?

def treeOf (s : Session) (h : Handle) : Tree := (s.trees[h.tree]?).getD .empty

def data (s : Session) (h : Handle) : Tree := h.view.data (s.treeOf h)

def setTree (s : Session) (h : Handle) (t : Tree) : Session :=
  { s with trees := s.trees.set h.tree t }

def setConfig (s : Session) (i : Nat) (h : Handle) (config : Config) : Session :=
  { s with handles := s.handles.set i { h with view := { h.view with config } } }

def addHandle (s : Session) (h : Handle) : Session := { s with handles := s.handles ++ [h] }

def addTree (s : Session) (t : Tree) (config : Config) (dotted : Bool) : Session :=
  { trees := s.trees ++ [t]
    handles := s.handles ++ [⟨s.trees.length, ⟨[], config⟩, dotted⟩] }

/-- A handle with a fixed delimiter takes neither other delimiters nor ready-made nodes. -/
def Command.suits (h : Handle) : Command → Bool
  | .place .. | .addDelimiters .. => !h.dotted
  | _ => true

def settle (s : Session) (h : Handle) (r : Tree.Edited AccessError) :
    Session × Except AccessError Unit :=
  (s.setTree h r.tree, r.result)

/-- What a command makes of the session when it goes through the handle `h`, the `i`-th. -/
def apply (s : Session) (i : Nat) (h : Handle) : Command → Session × Except AccessError Unit
  | .set path v force => s.settle h (h.view.set path v force (s.treeOf h))
  | .place path node => s.settle h (h.view.place path node none (s.treeOf h))
  | .unset path => s.settle h (h.view.unset path (s.treeOf h))
  | .setData v => (s.setTree h (h.view.setData v (s.treeOf h)), .ok ())
  | .setForceCreate b => (s.setConfig i h { h.view.config with forceCreate := b }, .ok ())
  | .setPolicy p => (s.setConfig i h { h.view.config with policy := p }, .ok ())
  | .addDelimiters ds => (s.setConfig i h (h.view.config.addDelimiters ds), .ok ())
  | .narrow path =>
    match h.view.narrow path (s.treeOf h) with
    | .ok view => (s.addHandle { h with view }, .ok ())
    | .error e => (s, .error e)
  | .detach => (s.addTree (s.data h) h.view.config h.dotted, .ok ())
  | .unwrap => (s.addTree (s.data h) h.view.config false, .ok ())
  | .sibling v =>
    (s.addTree (.ofValue h.view.config.delimiters v) h.view.config false, .ok ())
  | .restore snapshot => (s.addTree snapshot.tree snapshot.config false, .ok ())

def after (s : Session) (i : Nat) (c : Command) : Session :=
  match s.handle? i with
  | none => s
  | some h => if Command.suits h c then (s.apply i h c).1 else s

def step (s : Session) (i : Nat) (c : Command) : Except CommandError Session :=
  match s.handle? i with
  | none => .error .noHandle
  | some h =>
    if Command.suits h c then ((s.apply i h c).2.map fun _ => s.after i c).mapError .access
    else .error .unsupported

def run (s : Session) (commands : List (Nat × Command)) : Session :=
  commands.foldl (fun s c => s.after c.1 c.2) s

end Session
end NestedData
