import NestedData.Proofs.Tree.Sameness
import NestedData.Proofs.Session.Rendering
/-!
Writes that do not concern each other. A write that goes through changes nothing for a write at a
path apart from its own: what stands in the way of that one stands there after as before. So two
such writes fail or go through in either order alike, and leave the same tree, though the children
that they bring into one branch stand there in the order of the writes.
-/

namespace NestedData

namespace Tree

variable {a b t : Tree} {p q r : List String}

theorem put_put_same (h : Apart p q) (ht : t.Distinct) (ha : a.Distinct) (hb : b.Distinct) :
    ((t.put p a).put q b).same ((t.put q b).put p a) = true := by
  induction p generalizing q t with
  | nil => exact absurd h (not_apart_nil_left q)
  | cons k p ih =>
    cases q with
    | nil => exact absurd h (not_apart_nil_right _)
    | cons l q =>
      have hcs : (branch t.children).Distinct := distinct_branch.2 ht.children
      rw [put_cons t, put_cons t, put_cons, put_cons]
      simp only [child?_branch, children_branch]
      by_cases hkl : k = l
      · subst hkl
        have hpq : Apart p q := (apart_cons_iff.1 h).resolve_left (by simp)
        rw [Dict.get?_insert_self, Dict.get?_insert_self, Dict.insert_insert_self,
          Dict.insert_insert_self]
        exact same_insert hcs (ih hpq (ht.child k)) k
      · rw [Dict.get?_insert_of_ne hkl, Dict.get?_insert_of_ne (Ne.symm hkl), get?_children,
          get?_children]
        exact same_insert_insert hcs ((ht.child l).put hb q) ((ht.child k).put ha p) (Ne.symm hkl)

theorem branchAt_put_iff (hp : t.Clear p) (hr : ¬ p <+: r) (node : Tree) :
    (t.put p node).BranchAt r ↔ t.BranchAt r := by
  by_cases hrp : r <+: p
  · obtain ⟨rest, rfl⟩ := hrp
    cases rest with
    | nil => exact absurd ⟨[], by simp⟩ hr
    | cons key rest =>
      have hthere : t.BranchAt r := hp r (List.prefix_append r _) (by simp)
      exact iff_of_true ⟨_, find?_put_above r key rest t node⟩ hthere
  · unfold BranchAt
    rw [find?_put_of_apart ⟨hr, hrp⟩]

theorem Apart.not_prefix_of_prefix (h : Apart p q) (hr : r <+: q) : ¬ p <+: r :=
  fun hpr => h.1 (hpr.trans hr)

theorem clear_put_iff (hp : t.Clear p) (h : Apart p q) (node : Tree) :
    (t.put p node).Clear q ↔ t.Clear q := by
  constructor
  · intro hc r hr hne
    exact (branchAt_put_iff hp (h.not_prefix_of_prefix hr) node).1 (hc r hr hne)
  · intro hc r hr hne
    exact (branchAt_put_iff hp (h.not_prefix_of_prefix hr) node).2 (hc r hr hne)

/-- So an obstacle on a path apart from the written one stays the first, and stays what it is. -/
theorem FirstObstacle.put (ho : t.FirstObstacle q r) (hp : t.Clear p) (h : Apart p q)
    (node : Tree) : (t.put p node).FirstObstacle q r ∧ (t.put p node).find? r = t.find? r := by
  obtain ⟨hr, hne, hb, hc⟩ := ho
  have hpr : ¬ p <+: r := h.not_prefix_of_prefix hr
  -- Before the end of the written path there are only branches.
  have hrp : ¬ r <+: p := fun hrp => hb (hp r hrp fun he => hpr (he ▸ List.prefix_rfl))
  refine ⟨⟨hr, hne, ?_, ?_⟩, find?_put_of_apart ⟨hpr, hrp⟩ t node⟩
  · rw [branchAt_put_iff hp hpr]
    exact hb
  · exact (clear_put_iff hp ⟨hpr, hrp⟩ node).2 hc

end Tree

namespace View

open NestedData.Tree (Apart Clear)

variable {w w₁ w₂ : View} {path path₁ path₂ : PathSpec} {t node a b : Tree} {p : List String}
  {force f₁ f₂ : Option Bool}

theorem clear_of_place_ok (hf : w.forces force = false)
    (h : (w.place path node force t).result = .ok ()) : t.Clear (w.absolute path) := by
  rcases t.clear_or_firstObstacle (w.absolute path) with hc | ⟨q, hq⟩
  · exact hc
  · rw [w.place_of_firstObstacle path t hf hq node] at h
    cases h

/-- A write goes as it would have gone before an unobstructed one at a path apart. -/
theorem place_result_put (hp : t.Clear p) (h : Apart p (w.absolute path)) (a : Tree) :
    (w.place path node force (t.put p a)).result = (w.place path node force t).result := by
  cases hf : w.forces force with
  | true => rw [w.place_of_forces path _ hf, w.place_of_forces path _ hf]; rfl
  | false =>
    rcases t.clear_or_firstObstacle (w.absolute path) with hc | ⟨q, hq⟩
    · rw [w.place_of_clear path t hc, w.place_of_clear path _ ((Tree.clear_put_iff hp h a).2 hc)]
      rfl
    · obtain ⟨hq', hfind⟩ := hq.put hp h a
      rw [w.place_of_firstObstacle path t hf hq, w.place_of_firstObstacle path _ hf hq', blockedAt,
        blockedAt, hfind]
      rfl

theorem place_result_after_place (h : Apart (w₁.absolute path₁) (w₂.absolute path₂))
    (hf : w₁.forces f₁ = w₂.forces f₂) (a b t : Tree) :
    (w₂.place path₂ b f₂ (w₁.place path₁ a f₁ t).tree).result =
      (w₂.place path₂ b f₂ t).result := by
  cases hr : (w₁.place path₁ a f₁ t).result with
  | error e => rw [w₁.place_tree_of_error path₁ t hr]
  | ok _ =>
    rw [w₁.place_tree_of_ok path₁ t hr]
    cases hf₂ : w₂.forces f₂ with
    | true => rw [w₂.place_of_forces path₂ _ hf₂, w₂.place_of_forces path₂ _ hf₂]; rfl
    | false => exact place_result_put (clear_of_place_ok (hf.trans hf₂) hr) h a

/-- Of two writes at paths apart each does in either order what it does alone, so that there are
only the trees with both nodes, with one of them, or with none. -/
theorem place_place_same (h : Apart (w₁.absolute path₁) (w₂.absolute path₂))
    (hf : w₁.forces f₁ = w₂.forces f₂) (ht : t.Distinct) (ha : a.Distinct) (hb : b.Distinct) :
    ((w₂.place path₂ b f₂ (w₁.place path₁ a f₁ t).tree).tree).same
      ((w₁.place path₁ a f₁ (w₂.place path₂ b f₂ t).tree).tree) = true := by
  have hresult₂ := place_result_after_place h hf a b t
  have hresult₁ := place_result_after_place h.symm hf.symm b a t
  cases hr₁ : (w₁.place path₁ a f₁ t).result with
  | ok _ =>
    rw [hr₁] at hresult₁
    rw [w₁.place_tree_of_ok path₁ _ hresult₁]
    cases hr₂ : (w₂.place path₂ b f₂ t).result with
    | ok _ =>
      rw [hr₂] at hresult₂
      rw [w₂.place_tree_of_ok path₂ _ hresult₂, w₁.place_tree_of_ok path₁ _ hr₁,
        w₂.place_tree_of_ok path₂ _ hr₂]
      exact Tree.put_put_same h ht ha hb
    | error e =>
      rw [hr₂] at hresult₂
      rw [w₂.place_tree_of_error path₂ _ hresult₂, w₁.place_tree_of_ok path₁ _ hr₁,
        w₂.place_tree_of_error path₂ _ hr₂]
      exact Tree.same_refl (ht.put ha _)
  | error e =>
    rw [hr₁] at hresult₁
    rw [w₁.place_tree_of_error path₁ _ hresult₁, w₁.place_tree_of_error path₁ _ hr₁]
    cases hr₂ : (w₂.place path₂ b f₂ t).result with
    | ok _ =>
      rw [w₂.place_tree_of_ok path₂ _ hr₂]
      exact Tree.same_refl (ht.put hb _)
    | error e =>
      rw [w₂.place_tree_of_error path₂ _ hr₂]
      exact Tree.same_refl ht

/-- Two values written at paths apart, both with force or both without, through views of one tree
that repeats no key. In either order each write goes through, or fails with the same error, as it
does alone, and the two trees that are left are the same but for the order of children. -/
theorem independent_writes_commute (h : Apart (w₁.absolute path₁) (w₂.absolute path₂))
    (hf : w₁.forces f₁ = w₂.forces f₂) (ht : t.Distinct) (v₁ v₂ : Value) :
    let first := w₁.set path₁ v₁ f₁
    let second := w₂.set path₂ v₂ f₂
    (second (first t).tree).result = (second t).result ∧
      (first (second t).tree).result = (first t).result ∧
      (second (first t).tree).tree.same (first (second t).tree).tree = true := by
  have hv₁ := (Tree.normal_nil_ofValue w₁.config.delimiters v₁).distinct
  have hv₂ := (Tree.normal_nil_ofValue w₂.config.delimiters v₂).distinct
  refine ⟨?_, ?_, ?_⟩
  · exact place_result_after_place h hf _ _ t
  · exact place_result_after_place h.symm hf.symm _ _ t
  · exact place_place_same h hf ht hv₁ hv₂

/-- Two paths share a place where a leaf gives way to the branch that receives both values. -/
theorem independent_writes_commute_through_leaf :
    let w₁ : View := { base := ["a"] }
    let w₂ : View := { config := { forceCreate := true } }
    let t : Tree := .branch [("a", .leaf .null), ("b", .branch [])]
    let first := w₁.set (.text "x.y") .null (some true)
    let second := w₂.set (.text "a.x.z") (.array []) none
    Apart (w₁.absolute (.text "x.y")) (w₂.absolute (.text "a.x.z")) ∧
      w₁.forces (some true) = w₂.forces none ∧ t.Distinct ∧
      (first (second t).tree).result = .ok () ∧
      (second (first t).tree).tree.find? ["a", "x"] =
        some (.branch [("y", .leaf .null), ("z", .branch [])]) ∧
      (first (second t).tree).tree.find? ["a", "x"] =
        some (.branch [("z", .branch []), ("y", .leaf .null)]) ∧
      (second (first t).tree).tree.same (first (second t).tree).tree = true := by
  intro w₁ w₂ t first second
  have hpath₁ : w₁.absolute (.text "x.y") = ["a", "x", "y"] := by decide
  have hpath₂ : w₂.absolute (.text "a.x.z") = ["a", "x", "z"] := by decide
  have h : Apart (w₁.absolute (.text "x.y")) (w₂.absolute (.text "a.x.z")) := by
    rw [hpath₁, hpath₂]
    decide
  have hf : w₁.forces (some true) = w₂.forces none := rfl
  have hnormal := Tree.normal_nil_ofValue [] (.object [("a", .null), ("b", .object [])])
  have ht : t.Distinct := hnormal.distinct
  obtain ⟨-, hresult, hsame⟩ := independent_writes_commute h hf ht .null (.array [])
  exact ⟨h, hf, ht, hresult, rfl, rfl, hsame⟩

end View
end NestedData
