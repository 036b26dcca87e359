import NestedData.Proofs.Session.Runs
import NestedData.Proofs.Tree.Normal
import NestedData.Proofs.Tree.Removing
/-!
Sessions that come from values alone. Whatever the delimiters, the tree of a value has no list and
no object in a leaf and repeats no key, and no write of a value and no removal changes that. So
every handle of such a session can be rendered as a value, and the value has the structure of the
node.
-/

namespace NestedData

namespace Tree

variable {delimiters : List Char} {t : Tree} {cs : List (String × Tree)} {path : List String}

theorem normal_nil_ofValue (ds : List String) (v : Value) : Normal [] (ofValue ds v) :=
  normal_ofValue_of_whole (fun _ s _ => whole_nil s) (fun n => whole_nil (indexKey n)) v

theorem Normal.find? (ht : Normal delimiters t) (path : List String) :
    Normal delimiters ((t.find? path).getD empty) := by
  induction path generalizing t with
  | nil => exact ht
  | cons key path ih =>
    rw [find?_cons, ← getD_find?_getD_empty]
    exact ih (ht.child key)

theorem Normal.erase (h : Normal delimiters (.branch cs)) (key : String) :
    Normal delimiters (.branch (Dict.erase key cs)) := by
  rw [normal_branch] at h ⊢
  exact ⟨h.1.erase key, fun e he => h.2 e (List.mem_of_mem_filter he)⟩

theorem Normal.put_nil {node : Tree} (ht : Normal [] t) (path : List String)
    (hn : Normal [] node) : Normal [] (t.put path node) := ht.put (fun s _ => whole_nil s) hn

theorem Normal.remove (ht : Normal [] t) (hpath : path ≠ []) : Normal [] (t.remove path).tree := by
  cases hfind : t.find? path with
  | none =>
    obtain ⟨found, hremove⟩ := remove_of_missing hpath hfind
    rwa [hremove]
  | some c =>
    obtain ⟨above, key, cs, -, habove, hremove⟩ := remove_of_isSome hpath (by rw [hfind]; rfl)
    have hcs : Normal [] (.branch cs) := by
      have hnode := ht.find? above
      rwa [habove] at hnode
    rw [hremove]
    exact ht.put_nil above (hcs.erase key)

end Tree

namespace View

variable {t : Tree}

theorem normal_set (ht : t.Normal []) (w : View) (path : PathSpec) (v : Value)
    (force : Option Bool) : (w.set path v force t).tree.Normal [] := by
  rw [set]
  rcases w.place_cases path t (.ofValue w.config.delimiters v) force with hp | ⟨-, q, -, hp⟩
  · rw [hp]
    exact ht.put_nil _ (Tree.normal_nil_ofValue _ v)
  · rwa [hp]

theorem normal_unset (ht : t.Normal []) (w : View) (path : PathSpec) :
    (w.unset path t).tree.Normal [] := by
  by_cases hs : w.segments path = []
  · rw [w.unset_of_segments_eq_nil path t hs]
    exact ht.put_nil _ Tree.normal_empty
  · rw [w.unset_tree_of_segments_ne_nil path t hs]
    exact ht.remove fun ha => hs (List.append_eq_nil_iff.1 ha).2

end View

/-- The command brings no tree of its own: what it writes, it makes of values. -/
def Command.FromValues : Command → Prop
  | .place .. | .restore _ => False
  | _ => True

namespace Session

variable {s : Session} {h : Handle} {c : Command} {commands : List (ℕ × Command)}

/-- Sessions in which handles have begun with the trees of values, each with its configuration, and
commands that bring no tree have gone through them, in any order. -/
inductive FromValues : Session → Prop
  | nil : FromValues ⟨[], []⟩
  | create {s : Session} (hs : FromValues s) (v : Value) (config : Config) (dotted : Bool) :
      FromValues (s.addTree (.ofValue config.delimiters v) config dotted)
  | after {s : Session} (hs : FromValues s) (i : ℕ) {c : Command} (hc : c.FromValues) :
      FromValues (s.after i c)

theorem FromValues.run (hs : s.FromValues) (hc : ∀ command ∈ commands, command.2.FromValues) :
    (s.run commands).FromValues := by
  induction commands generalizing s with
  | nil => exact hs
  | cons command rest ih =>
    rw [List.forall_mem_cons] at hc
    exact ih (hs.after command.1 hc.1) hc.2

def AllNormal (s : Session) : Prop := ∀ t ∈ s.trees, t.Normal []

namespace AllNormal

theorem treeOf (hs : s.AllNormal) (h : Handle) : (s.treeOf h).Normal [] := by
  rw [Session.treeOf]
  cases ht : s.trees[h.tree]? with
  | none => exact Tree.normal_empty
  | some t => exact hs t (List.mem_of_getElem? ht)

theorem setTree (hs : s.AllNormal) (h : Handle) {t : Tree} (ht : t.Normal []) :
    (s.setTree h t).AllNormal := by
  intro u hu
  rcases List.mem_or_eq_of_mem_set hu with hu | rfl
  · exact hs u hu
  · exact ht

theorem addTree (hs : s.AllNormal) {t : Tree} (ht : t.Normal []) (config : Config) (dotted : Bool) :
    (s.addTree t config dotted).AllNormal :=
  List.forall_mem_append.2 ⟨hs, List.forall_mem_singleton.2 ht⟩

theorem data (hs : s.AllNormal) (h : Handle) : (s.data h).Normal [] :=
  (hs.treeOf h).find? h.view.base

theorem apply (hs : s.AllNormal) (i : ℕ) (h : Handle) (hc : c.FromValues) :
    (s.apply i h c).1.AllNormal := by
  have ht := hs.treeOf h
  cases c with
  | set path v force => exact hs.setTree h (View.normal_set ht h.view path v force)
  | unset path => exact hs.setTree h (View.normal_unset ht h.view path)
  | setData v => exact hs.setTree h (ht.put_nil h.view.base (Tree.normal_nil_ofValue _ v))
  | setForceCreate | setPolicy | addDelimiters => exact hs
  | narrow path =>
    rw [Session.apply]
    split <;> exact hs
  | detach | unwrap => exact hs.addTree (hs.data h) _ _
  | sibling v => exact hs.addTree (Tree.normal_nil_ofValue _ v) _ _
  | place | restore => exact hc.elim

theorem after (hs : s.AllNormal) (i : ℕ) (hc : c.FromValues) : (s.after i c).AllNormal := by
  rw [Session.after]
  cases s.handle? i with
  | none => exact hs
  | some h =>
    dsimp only
    split
    · exact hs.apply i h hc
    · exact hs

end AllNormal

theorem FromValues.allNormal (hs : s.FromValues) : s.AllNormal := by
  induction hs with
  | nil => exact fun _ ht => absurd ht List.not_mem_nil
  | create _ v config dotted ih => exact ih.addTree (Tree.normal_nil_ofValue _ v) config dotted
  | after _ i hc ih => exact ih.after i hc

/-- Whatever has been done with values, no leaf of a tree that a handle looks at holds a list or an
object, and the addressed node is the tree of the value that it is rendered as. -/
theorem rendering_faithful (hs : s.FromValues) :
    ∀ h ∈ s.handles, (s.treeOf h).Atomic ∧
      Tree.ofValue [] (h.view.toValue (s.treeOf h)) = s.data h := by
  intro h _
  exact ⟨(hs.allNormal.treeOf h).atomic, Tree.ofValue_toValue (hs.allNormal.data h)⟩

/-- A list written below a leaf through a view, beside a key that holds a delimiter; then a copy of
the view that has lost what was written. -/
theorem rendering_faithful_of_run :
    let config : Config := { delimiters := ["::", "."], policy := .silent }
    let v : Value := .object [("a::b", .bool true), ("c", .object [])]
    let commands := [(0, .narrow (.text "a.b")),
      (1, .set (.atom "x.y") (.array [.string "s", .object [("f.g", .null)]]) (some true)),
      (1, .detach), (2, .unset (.atom "x.y"))]
    let start := addTree ⟨[], []⟩ (.ofValue config.delimiters v) config false
    let s := start.run commands
    let written : Handle := ⟨0, ⟨["a", "b"], config⟩, false⟩
    s.FromValues ∧ written ∈ s.handles ∧
      (∀ h ∈ s.handles, (s.treeOf h).Atomic ∧
        Tree.ofValue [] (h.view.toValue (s.treeOf h)) = s.data h) ∧
      (s.data written).toValue = .object [("x.y", .array [.string "s",
        .object [("f", .object [("g", .null)])]])] ∧ s.trees.length = 2 := by
  intro config v commands start s written
  have hstart : start.FromValues := .create .nil v config false
  have hs : s.FromValues := hstart.run (by simp [commands, Command.FromValues])
  exact ⟨hs, by decide, rendering_faithful hs, rfl, rfl⟩

end Session
end NestedData
