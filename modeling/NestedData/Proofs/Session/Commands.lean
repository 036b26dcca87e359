import NestedData.Session
import NestedData.Proofs.View.Writing
/-!
Commands that do not go through. Whatever keeps a command from going through, the session is left as
it was, so that `step` may drop what a failed command leaves.
-/

namespace NestedData.Session

theorem setTree_treeOf (s : Session) (h : Handle) : s.setTree h (s.treeOf h) = s := by
  have ht : s.trees.set h.tree (s.treeOf h) = s.trees := by
    by_cases hi : h.tree < s.trees.length
    · rw [treeOf, List.getElem?_eq_getElem hi, Option.getD_some, List.set_getElem_self]
    · exact List.set_eq_of_length_le (by omega)
  rw [setTree, ht]

theorem settle_of_error {s : Session} {h : Handle} {r : Tree.Edited AccessError} {e : AccessError}
    (he : (s.settle h r).2 = .error e) (hr : r.result = .error e → r.tree = s.treeOf h) :
    (s.settle h r).1 = s := by
  change s.setTree h r.tree = s
  rw [hr he, setTree_treeOf]

theorem apply_of_error {s : Session} {i : Nat} {h : Handle} {c : Command} {e : AccessError}
    (he : (s.apply i h c).2 = .error e) : (s.apply i h c).1 = s := by
  cases c with
  | set path v force => exact settle_of_error he fun hr => h.view.place_tree_of_error path _ hr
  | place path node => exact settle_of_error he fun hr => h.view.place_tree_of_error path _ hr
  | unset path => exact settle_of_error he fun hr => h.view.unset_tree_of_error path _ hr
  | narrow path =>
    simp only [apply] at he ⊢
    split <;> simp_all
  | setData | setForceCreate | setPolicy | addDelimiters | detach | unwrap | sibling | restore =>
    cases he

theorem after_of_step_error {s : Session} {i : Nat} {c : Command} {e : CommandError}
    (h : s.step i c = .error e) : s.after i c = s := by
  unfold step at h
  unfold after
  cases hh : s.handle? i with
  | none => rfl
  | some handle =>
    rw [hh] at h
    dsimp only at h ⊢
    split at h
    · rename_i hs
      rw [if_pos hs]
      cases ha : (s.apply i handle c).2 with
      | ok u => rw [ha] at h; cases h
      | error e' => exact apply_of_error ha
    · rename_i hs
      rw [if_neg hs]

theorem after_of_step_ok {s u : Session} {i : Nat} {c : Command} (h : s.step i c = .ok u) :
    s.after i c = u := by
  unfold step at h
  cases hh : s.handle? i with
  | none => rw [hh] at h; cases h
  | some handle =>
    rw [hh] at h
    dsimp only at h
    split at h
    · cases ha : (s.apply i handle c).2 with
      | ok u' => rw [ha] at h; exact Except.ok.inj h
      | error e => rw [ha] at h; cases h
    · cases h

end NestedData.Session
