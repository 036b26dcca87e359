import NestedData.Proofs.Path.Joining
import NestedData.Proofs.Session.Views
/-!
One meaning of writing. A node is put at a path in the same way whether a tree is built from a value
or written through a handle that makes what is missing. So the tree of an object is what writing its
members one after the other into an empty tree leaves, and replacing what a handle addresses is a
write at the empty path.
-/

namespace NestedData

/-- The path that an entry of an object is written at. The empty text would be the empty path. -/
def entryPath (key : String) : PathSpec := if key = "" then .atom key else .text key

theorem segments_entryPath (delimiters : List String) (key : String) :
    (entryPath key).segments delimiters = Tree.keySegments delimiters key := by
  unfold entryPath
  by_cases h : key = ""
  · subst h
    rfl
  · rw [if_neg h, PathSpec.segments_text h, Tree.keySegments_of_ne_empty h]

theorem View.absolute_empty (w : View) : w.absolute .empty = w.base := List.append_nil w.base

namespace Session

variable {s : Session} {i : ℕ} {h : Handle}

theorem step_of_handle? (hi : s.handle? i = some h) {c : Command}
    (hc : Command.suits h c = true) (hok : (s.apply i h c).2 = .ok ()) :
    s.step i c = .ok (s.apply i h c).1 := by
  rw [step_of_suits hi hc, hok, after_of_suits hi hc]
  rfl

theorem step_set_forced (hi : s.handle? i = some h) (path : PathSpec) (v : Value) :
    s.step i (.set path v (some true)) = .ok (s.setTree h
      ((s.treeOf h).put (h.view.absolute path) (.ofValue h.view.config.delimiters v))) := by
  have happly : s.apply i h (.set path v (some true)) = (s.setTree h
      ((s.treeOf h).put (h.view.absolute path) (.ofValue h.view.config.delimiters v)), .ok ()) := by
    rw [apply, View.set, View.place_of_forces _ _ _ rfl]
    rfl
  have hok := congrArg Prod.snd happly
  rw [step_of_handle? hi rfl hok, happly]

theorem step_setData (hi : s.handle? i = some h) (v : Value) :
    s.step i (.setData v) = .ok (s.setTree h
      ((s.treeOf h).put h.view.base (.ofValue h.view.config.delimiters v))) :=
  step_of_handle? hi rfl rfl

theorem step_setData_eq_set (s : Session) (i : ℕ) (v : Value) :
    s.step i (.setData v) = s.step i (.set .empty v (some true)) := by
  cases hi : s.handle? i with
  | none =>
    unfold step
    rw [hi]
  | some h => rw [step_setData hi, step_set_forced hi, View.absolute_empty]

def writeEntries (i : ℕ) (entries : List (String × Value)) (s : Session) :
    Except CommandError Session :=
  entries.foldlM (fun s e => s.step i (.set (entryPath e.1) e.2 (some true))) s

variable {config : Config} {dotted : Bool}

theorem step_set_ofTree (t : Tree) (path : PathSpec) (v : Value) :
    (ofTree t config dotted).step 0 (.set path v (some true)) =
      .ok (ofTree (t.put (path.segments config.delimiters) (.ofValue config.delimiters v))
        config dotted) := by
  have hi : (ofTree t config dotted).handle? 0 = some ⟨0, ⟨[], config⟩, dotted⟩ := rfl
  rw [step_set_forced hi]
  rfl

theorem writeEntries_ofTree (entries : List (String × Value)) (t : Tree) :
    (ofTree t config dotted).writeEntries 0 entries =
      .ok (ofTree (t.putMembers config.delimiters entries) config dotted) := by
  induction entries generalizing t with
  | nil => rfl
  | cons e entries ih =>
    rw [writeEntries, List.foldlM_cons, step_set_ofTree, segments_entryPath, Tree.putMembers]
    exact ih _

end Session

/-- Putting a node, writing it with force through a handle on the whole tree, and building a tree
from the entries of an object are one thing, and so are replacing what a handle addresses, wherever
its base is and whether it is there, and writing with force at the empty path. -/
theorem one_write_semantics (config : Config) :
    (∀ force : Option Bool, force.getD config.forceCreate = true →
      ∀ (t : Tree) (path : List String) (node : Tree),
        View.place { config } (.ofSegments path) node force t = .done (t.put path node)) ∧
    (∀ (dotted : Bool) (entries : List (String × Value)),
      (Session.ofTree .empty config dotted).writeEntries 0 entries =
        .ok (.ofTree (.ofValue config.delimiters (.object entries)) config dotted)) ∧
    ∀ (s : Session) (i : ℕ) (v : Value),
      s.step i (.setData v) = s.step i (.set .empty v (some true)) := by
  refine ⟨fun force hforce t path node => ?_, fun dotted entries => ?_, Session.step_setData_eq_set⟩
  · have hforces : View.forces { config } force = true := hforce
    have hpath : View.absolute { config } (.ofSegments path) = path :=
      PathSpec.segments_ofSegments config.delimiters path
    rw [View.place_of_forces _ _ _ hforces, hpath]
  · rw [Session.writeEntries_ofTree, Tree.ofValue]

/-- Later entries go into branches that earlier ones have made, or over them. -/
example : (Session.ofTree .empty {} false).writeEntries 0
      [("b.c", .null), ("", .null), ("b.d", .bool true), ("a", .null), ("a.x", .array [.null])] =
    .ok (.ofTree (.branch [("b", .branch [("c", .leaf .null), ("d", .leaf (.bool true))]),
      ("", .leaf .null), ("a", .branch [("x", .branch [("0", .leaf .null)])])]) {} false) := rfl

end NestedData
