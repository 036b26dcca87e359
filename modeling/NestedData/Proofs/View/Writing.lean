import NestedData.View.Write
import NestedData.Proofs.Tree.Removing
/-!
Writes through a view. A write that goes through can be read back at its path, leaves what lies
apart from the path as it was, and adds at most one key to each branch on the way. An edit that
fails leaves the tree as it was; forced writes do not fail, and the first obstacle on the way
decides how others do.
-/

namespace NestedData.View

open NestedData.Tree (Apart BranchAt Clear FirstObstacle)

variable (w : View) (path : PathSpec) (t : Tree)

def forces (force : Option Bool) : Bool := force.getD w.config.forceCreate

theorem place_eq_write (node : Tree) (force : Option Bool) :
    w.place path node force t =
      (t.write (w.forces force) (w.absolute path) node).mapError
        (w.obstructed (w.absolute path)) := rfl

theorem place_of_forces {force : Option Bool} (h : w.forces force = true) (node : Tree) :
    w.place path node force t = .done (t.put (w.absolute path) node) := by
  rw [place_eq_write, h, Tree.write_forced]
  rfl

theorem place_of_clear (h : t.Clear (w.absolute path)) (node : Tree) (force : Option Bool) :
    w.place path node force t = .done (t.put (w.absolute path) node) := by
  rw [place_eq_write, Tree.write_of_clear h]
  rfl

/-- The error of an unforced write whose first obstacle is at `q`: a leaf is named by its path, and
a missing segment comes first among those that could not be followed. -/
def blockedAt (q : List String) : AccessError :=
  if (t.find? q).isSome then .notAddressableAt (q.drop (w.hidden q.length)) w.config.main
  else .unreachable (q.dropLast.drop (w.hidden (q.length - 1)))
    ((w.absolute path).dropLast.drop (q.length - 1)) w.config.main

theorem take_length_pred {p q : List String} (h : q <+: p) (hne : q ≠ p) :
    p.dropLast.take (q.length - 1) = q.dropLast := by
  obtain ⟨r, rfl⟩ := h
  have hr : r ≠ [] := by rintro rfl; simp at hne
  rw [List.dropLast_append_of_ne_nil hr, List.take_append_of_le_length (by omega),
    List.dropLast_eq_take]

theorem place_of_firstObstacle {force : Option Bool} {q : List String}
    (hf : w.forces force = false) (h : t.FirstObstacle (w.absolute path) q) (node : Tree) :
    w.place path node force t = .stopped t (w.blockedAt path t q) := by
  rw [place_eq_write, hf]
  have htake : (w.absolute path).take q.length = q := by
    obtain ⟨r, hr⟩ := h.1
    rw [← hr, List.take_left]
  rcases Tree.write_of_firstObstacle h node with ⟨v, hq, hw⟩ | ⟨hq, -, hw⟩
  · rw [hw, blockedAt, hq, if_pos (by rfl)]
    change Tree.Edited.stopped t (AccessError.notAddressableAt _ _) = _
    rw [htake]
  · rw [hw, blockedAt, hq, if_neg (by simp)]
    change Tree.Edited.stopped t (AccessError.unreachable _ _ _) = _
    rw [take_length_pred h.1 h.2.1]

/-- A write puts its node, or it is not forced and stops at the first obstacle. -/
theorem place_cases (node : Tree) (force : Option Bool) :
    w.place path node force t = .done (t.put (w.absolute path) node) ∨
      w.forces force = false ∧ ∃ q, t.FirstObstacle (w.absolute path) q ∧
        w.place path node force t = .stopped t (w.blockedAt path t q) := by
  cases hf : w.forces force with
  | true => exact Or.inl (w.place_of_forces path t hf node)
  | false =>
    rcases t.clear_or_firstObstacle (w.absolute path) with h | ⟨q, hq⟩
    · exact Or.inl (w.place_of_clear path t h node force)
    · exact Or.inr ⟨rfl, q, hq, w.place_of_firstObstacle path t hf hq node⟩

theorem place_tree_of_ok {node : Tree} {force : Option Bool}
    (h : (w.place path node force t).result = .ok ()) :
    (w.place path node force t).tree = t.put (w.absolute path) node := by
  rcases w.place_cases path t node force with hp | ⟨-, q, -, hp⟩
  · rw [hp]; rfl
  · rw [hp] at h; cases h

theorem place_tree_of_error {node : Tree} {force : Option Bool} {e : AccessError}
    (h : (w.place path node force t).result = .error e) :
    (w.place path node force t).tree = t := by
  rcases w.place_cases path t node force with hp | ⟨-, q, -, hp⟩
  · rw [hp] at h; cases h
  · rw [hp]; rfl

theorem unset_of_segments_eq_nil (h : w.segments path = []) :
    w.unset path t = .done (t.put w.base .empty) := by
  unfold unset
  rw [h]
  rfl

theorem unset_tree_of_segments_ne_nil (h : w.segments path ≠ []) :
    (w.unset path t).tree = (t.remove (w.absolute path)).tree := by
  unfold unset
  rw [if_neg (by simpa using h)]
  dsimp only
  cases (t.remove (w.absolute path)).result with
  | ok _ => rfl
  | error found => dsimp only; split <;> rfl

theorem unset_tree_of_error {e : AccessError} (h : (w.unset path t).result = .error e) :
    (w.unset path t).tree = t := by
  by_cases hs : w.segments path = []
  · rw [w.unset_of_segments_eq_nil path t hs] at h
    cases h
  · rw [w.unset_tree_of_segments_ne_nil path t hs]
    unfold unset at h
    rw [if_neg (by simpa using hs)] at h
    cases hr : (t.remove (w.absolute path)).result with
    | ok _ => simp [hr, Tree.Edited.done] at h
    | error found => exact Tree.remove_tree_of_error hr

theorem lookup_eq_ok_iff {u : Tree} :
    w.lookup path t = .ok u ↔ t.find? (w.absolute path) = some u := by
  rw [← Tree.walk_eq_ok_iff, ← Tree.toOption_eq_some_iff, ← Tree.toOption_eq_some_iff, lookup,
    Tree.toOption_mapError]

/-- What a write that goes through does: its value stands at its path, nothing apart from the path
has changed, and each branch on the way has kept its keys in order and received at most the next
segment, as its last key. -/
theorem set_effect (w : View) (path : PathSpec) (v : Value) (force : Option Bool) (t : Tree)
    (h : (w.set path v force t).result = .ok ()) :
    w.lookup path (w.set path v force t).tree = .ok (.ofValue w.config.delimiters v) ∧
    (∀ q, Apart (w.absolute path) q → (w.set path v force t).tree.find? q = t.find? q) ∧
    (∀ a key b cs, w.absolute path = a ++ key :: b → t.find? a = some (.branch cs) →
      ∃ ds, (w.set path v force t).tree.find? a = some (.branch ds) ∧
        Dict.keys ds = if key ∈ Dict.keys cs then Dict.keys cs else Dict.keys cs ++ [key]) := by
  have hu : (w.set path v force t).tree =
      t.put (w.absolute path) (.ofValue w.config.delimiters v) := w.place_tree_of_ok path t h
  rw [hu]
  refine ⟨?_, ?_, ?_⟩
  · rw [lookup_eq_ok_iff]
    exact Tree.find?_put_self _ _ _
  · intro q hq
    exact Tree.find?_put_of_apart hq _ _
  · intro a key b cs hab ha
    rw [hab]
    exact Tree.keys_put_above ha _

/-- A write through a leaf, by a view whose base the leaf stands in the way of. -/
theorem set_effect_through_leaf :
    let w : View := { base := ["a", "b"] }
    let t : Tree := .branch [("x", .leaf .null), ("a", .leaf (.bool true)), ("y", .branch [])]
    let u := (w.set (.atom "c") (.string "v") (some true) t).tree
    (w.set (.atom "c") (.string "v") (some true) t).result = .ok () ∧
      w.lookup (.atom "c") u = .ok (.leaf (.string "v")) ∧
      u.find? ["a", "z"] = t.find? ["a", "z"] ∧
      ∃ ds, u.find? [] = some (.branch ds) ∧ Dict.keys ds = ["x", "a", "y"] := by
  intro w t u
  have hr : (w.set (.atom "c") (.string "v") (some true) t).result = .ok () := rfl
  obtain ⟨hget, hframe, hkeys⟩ := set_effect w (.atom "c") (.string "v") (some true) t hr
  exact ⟨hr, hget, hframe _ (by decide), hkeys [] "a" ["b", "c"] _ rfl rfl⟩

def IsWrite (w : View) (path : PathSpec) (force : Option Bool) (t : Tree)
    (r : Tree.Edited AccessError) : Prop :=
  (∃ node, r = w.place path node force t) ∨ ∃ v, r = w.set path v force t

theorem IsWrite.eq_place {w : View} {path : PathSpec} {force : Option Bool} {t : Tree}
    {r : Tree.Edited AccessError} (h : w.IsWrite path force t r) :
    ∃ node, r = w.place path node force t := by
  rcases h with h | ⟨v, h⟩
  · exact h
  · exact ⟨_, h⟩

theorem not_branchAt_iff {q : List String} :
    ¬ t.BranchAt q ↔ t.find? q = none ∨ ∃ v, t.find? q = some (.leaf v) := by
  unfold BranchAt
  cases t.find? q with
  | none => simp
  | some u => cases u <;> simp

/-- Edits are atomic, and what can go wrong with a write is what stands on its way: a forced write
goes through, and an unforced one fails just when a place before the end of its path is missing or a
leaf. The first such place gives the error, as what is not addressable if it is a leaf, and as what
is out of reach if it is missing. -/
theorem failed_edit_leaves_tree (w : View) (path : PathSpec) (t : Tree) :
    (∀ force r e, w.IsWrite path force t r → r.result = .error e → r.tree = t) ∧
    (∀ e, (w.unset path t).result = .error e → (w.unset path t).tree = t) ∧
    (∀ force r, w.IsWrite path force t r → w.forces force = true → r.result = .ok ()) ∧
    (∀ force r, w.IsWrite path force t r → w.forces force = false →
      ((∃ e, r.result = .error e) ↔ ∃ q, q <+: w.absolute path ∧ q ≠ w.absolute path ∧
        (t.find? q = none ∨ ∃ v, t.find? q = some (.leaf v))) ∧
      ∀ q, t.FirstObstacle (w.absolute path) q →
        (∀ v, t.find? q = some (.leaf v) → r.result =
          .error (.notAddressableAt (q.drop (w.hidden q.length)) w.config.main)) ∧
        (t.find? q = none → r.result =
          .error (.unreachable (q.dropLast.drop (w.hidden (q.length - 1)))
            ((w.absolute path).dropLast.drop (q.length - 1)) w.config.main))) := by
  refine ⟨?_, fun e => w.unset_tree_of_error path t, ?_, ?_⟩
  · intro force r e hw he
    obtain ⟨node, rfl⟩ := hw.eq_place
    exact w.place_tree_of_error path t he
  · intro force r hw hf
    obtain ⟨node, rfl⟩ := hw.eq_place
    rw [w.place_of_forces path t hf]
    rfl
  · intro force r hw hf
    obtain ⟨node, rfl⟩ := hw.eq_place
    refine ⟨⟨?_, ?_⟩, ?_⟩
    · rintro ⟨e, he⟩
      rcases w.place_cases path t node force with hp | ⟨-, q, ⟨hq, hne, hb, -⟩, -⟩
      · rw [hp] at he
        cases he
      · exact ⟨q, hq, hne, (not_branchAt_iff t).1 hb⟩
    · rintro ⟨q, hq, hne, hb⟩
      rcases t.clear_or_firstObstacle (w.absolute path) with hc | ⟨q', hq'⟩
      · exact absurd (hc q hq hne) ((not_branchAt_iff t).2 hb)
      · exact ⟨_, by rw [w.place_of_firstObstacle path t hf hq' node]; rfl⟩
    · intro q hq
      rw [w.place_of_firstObstacle path t hf hq node]
      unfold blockedAt
      constructor
      · intro v hv
        rw [hv]
        rfl
      · intro hn
        rw [hn]
        rfl

end NestedData.View
