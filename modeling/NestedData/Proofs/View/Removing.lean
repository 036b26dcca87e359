import NestedData.Session
import NestedData.Proofs.View.Writing
/-!
Removals through a view. A removal at a path of at least one segment only removes: it finds what a
lookup finds, takes it from its parent, and touches nothing else. The empty path empties the
addressed node by putting an empty branch in its place; where the base of the view is missing, that
makes the base, and this is the only way for a removal to bring new paths.
-/

namespace NestedData.View

open NestedData.Tree (Apart)

/-- From `t` to `u` no path has come, and nothing apart from `p` has changed. -/
def OnlyRemoves (p : List String) (t u : Tree) : Prop :=
  (∀ q, (u.find? q).isSome → (t.find? q).isSome) ∧ ∀ q, Apart p q → u.find? q = t.find? q

theorem onlyRemoves_remove {p : List String} (hp : p ≠ []) (t : Tree) :
    OnlyRemoves p t (t.remove p).tree :=
  ⟨fun _ => Tree.find?_isSome_of_remove hp, fun _ hq => Tree.find?_remove_of_apart hq t⟩

theorem onlyRemoves_put_empty {p : List String} {t : Tree} (h : (t.find? p).isSome) :
    OnlyRemoves p t (t.put p .empty) := by
  refine ⟨fun q hq => ?_, fun q hq => Tree.find?_put_of_apart hq t _⟩
  rcases Tree.find?_isSome_of_put h hq with hq | ⟨r, rfl, hr⟩
  · exact hq
  · by_cases hr' : r = []
    · rwa [hr', List.append_nil]
    · rw [Tree.find?_empty hr'] at hr
      cases hr

theorem not_onlyRemoves_put {p : List String} {t : Tree} (h : ¬ (t.find? p).isSome) (node : Tree) :
    ¬ OnlyRemoves p t (t.put p node) := fun hr =>
  h (hr.1 p (by rw [Tree.find?_put_self]; rfl))

theorem absolute_ne_nil {w : View} {path : PathSpec} (h : w.segments path ≠ []) :
    w.absolute path ≠ [] := fun ha => h (List.append_eq_nil_iff.1 ha).2

/-- A removal only removes, except through the empty path of a view whose base is missing. -/
theorem unset_only_removes_iff (w : View) (path : PathSpec) (t : Tree) :
    OnlyRemoves (w.absolute path) t (w.unset path t).tree ↔
      (w.segments path = [] → (t.find? w.base).isSome) := by
  by_cases hs : w.segments path = []
  · have ha : w.absolute path = w.base := by rw [absolute, hs, List.append_nil]
    rw [w.unset_of_segments_eq_nil path t hs, ha]
    constructor
    · intro h _
      by_contra hb
      exact not_onlyRemoves_put hb _ h
    · exact fun h => onlyRemoves_put_empty (h hs)
  · rw [w.unset_tree_of_segments_ne_nil path t hs]
    exact iff_of_true (onlyRemoves_remove (absolute_ne_nil hs) t) fun h => absurd h hs

/-- A silent handle gives out a view of a missing node, and emptying that view makes the node. -/
theorem unset_makes_missing_base :
    let s := (Session.ofTree .empty { policy := .silent } false).after 0 (.narrow (.atom "b"))
    let w : View := ⟨["b"], { policy := .silent }⟩
    s.handle? 1 = some ⟨0, w, false⟩ ∧ s.trees = [.empty] ∧
      (s.after 1 (.unset .empty)).trees = [.branch [("b", .empty)]] ∧
      ¬ OnlyRemoves (w.absolute .empty) .empty (w.unset .empty .empty).tree := by
  refine ⟨rfl, rfl, rfl, fun h => ?_⟩
  have hb : (Tree.empty.find? ["b"]).isSome := h.1 ["b"] rfl
  cases hb

variable {w : View} {path : PathSpec} {t : Tree}

theorem holds_eq_false_iff : w.holds path t = false ↔ ∃ e, w.lookup path t = .error e := by
  have hiff : w.holds path t = true ↔ ∃ u, w.lookup path t = .ok u := by
    rw [holds, find?, Option.isSome_iff_exists]
    exact exists_congr fun u => (w.lookup_eq_ok_iff path t).symm
  rw [← Bool.not_eq_true, hiff]
  cases w.lookup path t <;> simp

theorem unset_of_lookup_error (hs : w.segments path ≠ []) {e : AccessError}
    (h : w.lookup path t = .error e) :
    w.unset path t = if w.config.policy = .strict then .stopped t e else .done t := by
  obtain ⟨found, hw, rfl⟩ := Tree.mapError_eq_error_iff.1 h
  rw [unset, if_neg (by simpa using hs), Tree.remove_of_walk_error (absolute_ne_nil hs) hw]
  rfl

theorem unset_of_holds (hs : w.segments path ≠ []) (h : w.holds path t = true) :
    w.unset path t = .done (t.remove (w.absolute path)).tree := by
  have hr : (t.remove (w.absolute path)).result = .ok () :=
    (Tree.remove_result_iff (absolute_ne_nil hs) t).2 h
  rw [unset, if_neg (by simpa using hs)]
  dsimp only
  rw [hr]

/-- Under the strict policy a removal goes through just when its path is there, and otherwise fails
as a lookup does; under the silent policy it always goes through. A path that is not there changes
nothing. One that is there is there no more, its siblings keep their order, and every path apart
from it leads where it led. -/
theorem unset_effect (w : View) (path : PathSpec) (t : Tree) (hs : w.segments path ≠ []) :
    (w.config.policy = .strict →
      ((w.unset path t).result = .ok () ↔ w.holds path t = true) ∧
      (w.holds path t = false → ∃ e, w.lookup path t = .error e ∧ w.unset path t = .stopped t e)) ∧
    (w.config.policy = .silent → (w.unset path t).result = .ok () ∧
      (w.holds path t = false → (w.unset path t).tree = t)) ∧
    (w.holds path t = true →
      w.holds path (w.unset path t).tree = false ∧
      (∀ q, Apart (w.absolute path) q → (w.unset path t).tree.find? q = t.find? q) ∧
      ∃ parent key cs, w.absolute path = parent ++ [key] ∧ t.find? parent = some (.branch cs) ∧
        (w.unset path t).tree.find? parent = some (.branch (cs.filter fun e => e.1 ≠ key))) := by
  have ha : w.absolute path ≠ [] := absolute_ne_nil hs
  refine ⟨fun hp => ?_, fun hp => ?_, fun h => ?_⟩
  · cases h : w.holds path t with
    | true => simp [unset_of_holds hs h, Tree.Edited.done]
    | false =>
      obtain ⟨e, he⟩ := holds_eq_false_iff.1 h
      have hu : w.unset path t = .stopped t e := by rw [unset_of_lookup_error hs he, if_pos hp]
      rw [hu]
      exact ⟨by simp [Tree.Edited.stopped], fun _ => ⟨e, he, rfl⟩⟩
  · cases h : w.holds path t with
    | true => simp [unset_of_holds hs h, Tree.Edited.done]
    | false =>
      obtain ⟨e, he⟩ := holds_eq_false_iff.1 h
      have hu : w.unset path t = .done t := by
        rw [unset_of_lookup_error hs he, hp]
        rfl
      rw [hu]
      exact ⟨rfl, fun _ => rfl⟩
  · rw [unset_of_holds hs h]
    exact ⟨congrArg Option.isSome (Tree.find?_remove_self ha t),
      fun q hq => Tree.find?_remove_of_apart hq t, Tree.find?_parent_of_remove ha h⟩

/-- A child of the base of a strict view, and a path that a leaf below it stands in the way of. -/
theorem unset_effect_below_base :
    let w : View := { base := ["a"] }
    let b : Tree := .branch [("x", .leaf .null), ("y", .branch [])]
    let t : Tree :=
      .branch [("a", .branch [("c", .leaf (.bool true)), ("b", b), ("d", .branch [])])]
    let u := (w.unset (.text "b") t).tree
    w.segments (.text "b") ≠ [] ∧ w.segments (.text "b.x.z") ≠ [] ∧
      (w.unset (.text "b") t).result = .ok () ∧ w.holds (.text "b") u = false ∧
      u.find? ["a", "d"] = t.find? ["a", "d"] ∧
      u.find? ["a"] = some (.branch [("c", .leaf (.bool true)), ("d", .branch [])]) ∧
      w.unset (.text "b.x.z") t = .stopped t (.unreachable ["b", "x"] ["z"] ".") := by
  intro w b t u
  have hb : w.absolute (.text "b") = ["a", "b"] := by decide
  have hsb : w.segments (.text "b") ≠ [] := by decide
  have hsz : w.segments (.text "b.x.z") ≠ [] := by decide
  have hz : w.lookup (.text "b.x.z") t = .error (.unreachable ["b", "x"] ["z"] ".") := rfl
  obtain ⟨hstrict, -, hfound⟩ := unset_effect w (.text "b") t hsb
  obtain ⟨hgone, hframe, -⟩ := hfound rfl
  obtain ⟨e, he, hstopped⟩ := ((unset_effect w (.text "b.x.z") t hsz).1 rfl).2 rfl
  obtain rfl := Except.error.inj (hz.symm.trans he)
  exact ⟨hsb, hsz, (hstrict rfl).1.2 rfl, hgone, hframe _ (by rw [hb]; decide), rfl, hstopped⟩

end NestedData.View
