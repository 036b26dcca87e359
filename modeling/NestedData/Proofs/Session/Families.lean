import NestedData.Proofs.Session.Views
import Mathlib.Data.List.Nodup
import Mathlib.Logic.Relation
/-!
Families of handles. Handles that are connected by views look at one tree, and no others do, if each
handle has started with a tree of its own. So commands through one family neither show in another
nor reach the configuration of any handle but the one that they go through.
-/

namespace NestedData

def Command.AddsTree : Command → Prop
  | .detach | .unwrap | .sibling _ | .restore _ => True
  | _ => False

namespace Session

variable {s u u' : Session} {commands more : List (ℕ × Command)} {i j : ℕ} {h k : Handle}
  {c : Command} {segments : List String}

/-- Connected by views, in either direction and over any number of handles. -/
def SameFamily (s : Session) (commands : List (ℕ × Command)) : ℕ → ℕ → Prop :=
  Relation.EqvGen fun i j => ∃ segments, s.ViewStep commands i j segments

theorem ViewStep.append (hv : s.ViewStep commands i j segments) (more : List (ℕ × Command)) :
    s.ViewStep (commands ++ more) i j segments := by
  obtain ⟨before, path, rest, h, view, rfl, hv⟩ := hv
  exact ⟨before, path, rest ++ more, h, view, by rw [List.append_assoc, List.cons_append], hv⟩

theorem SameFamily.append (hf : s.SameFamily commands i j) (more : List (ℕ × Command)) :
    s.SameFamily (commands ++ more) i j :=
  Relation.EqvGen.mono (fun _ _ ⟨segments, hv⟩ => ⟨segments, hv.append more⟩) i j hf

def roots (s : Session) : List ℕ := s.handles.map Handle.tree

theorem roots_of_handle? (hi : s.handle? i = some h) : s.roots[i]? = some h.tree := by
  rw [roots, List.getElem?_map]
  exact congrArg _ hi

theorem roots_eq_of_sameFamily (hf : s.SameFamily commands i j) :
    (s.run commands).roots[i]? = (s.run commands).roots[j]? := by
  induction hf with
  | rel i j hv =>
    obtain ⟨segments, hv⟩ := hv
    obtain ⟨h, v, hi, hj, htree, -⟩ := hv.handles
    rw [roots_of_handle? hi, roots_of_handle? hj, htree]
  | refl i => rfl
  | symm i j _ ih => exact ih.symm
  | trans i j l _ _ ih ih' => exact ih.trans ih'

structure Independent (s : Session) : Prop where
  sound : s.Sound
  nodup : s.roots.Nodup

theorem independent_ofTree (t : Tree) (config : Config) (dotted : Bool) :
    (ofTree t config dotted).Independent := by
  constructor
  · intro h hh
    rw [List.mem_singleton.1 hh]
    exact Nat.zero_lt_one
  · exact List.nodup_singleton 0

theorem roots_setConfig (hi : u.handle? i = some h) (config : Config) :
    (u.setConfig i h config).roots = u.roots := by
  have hset : (u.setConfig i h config).roots = u.roots.set i h.tree := List.map_set
  rw [hset]
  obtain ⟨hlt, hget⟩ := List.getElem?_eq_some_iff.1 (roots_of_handle? hi)
  rw [← hget, List.set_getElem_self]

/-- A command leaves the trees that handles look at, or adds one: that of a view is the tree of its
handle, and that of any other handle is new. -/
theorem Change.roots (hu : Change u i h c u') (hi : u.handle? i = some h) :
    u'.roots = u.roots ∨
    (∃ path view, c = .narrow path ∧ h.view.narrow path (u.treeOf h) = .ok view ∧
      u'.roots = u.roots ++ [h.tree]) ∨
    u'.roots = u.roots ++ [u.trees.length] := by
  cases hu with
  | edit => exact .inl rfl
  | configure | extend => exact .inl (roots_setConfig hi _)
  | narrow path view hview => exact .inr (.inl ⟨path, view, rfl, hview, List.map_append⟩)
  | separate | restore => exact .inr (.inr List.map_append)

theorem related_concat {l : List ℕ} {b : ℕ} {R : ℕ → ℕ → Prop} (hR : Equivalence R)
    (hold : ∀ i j a, l[i]? = some a → l[j]? = some a → R i j)
    (hnew : ∀ i, l[i]? = some b → R i l.length) (i j a : ℕ)
    (hi : (l ++ [b])[i]? = some a) (hj : (l ++ [b])[j]? = some a) : R i j := by
  have hcases : ∀ i, (l ++ [b])[i]? = some a → l[i]? = some a ∨ i = l.length ∧ a = b := by
    intro i hi
    rw [List.getElem?_append] at hi
    split at hi
    · exact .inl hi
    · rw [List.getElem?_singleton] at hi
      split at hi
      · exact .inr ⟨by omega, (Option.some.inj hi).symm⟩
      · cases hi
  rcases hcases i hi with hi' | ⟨rfl, rfl⟩
  · rcases hcases j hj with hj' | ⟨rfl, rfl⟩
    · exact hold i j a hi' hj'
    · exact hnew i hi'
  · rcases hcases j hj with hj' | ⟨rfl, -⟩
    · exact hR.symm (hnew j hj')
    · exact hR.refl _

theorem sameFamily_of_roots_eq (hs : s.Independent) (commands : List (ℕ × Command)) (i j a : ℕ)
    (hi : (s.run commands).roots[i]? = some a) (hj : (s.run commands).roots[j]? = some a) :
    s.SameFamily commands i j := by
  -- By the last command, which adds one handle at most and leaves the families that there are.
  induction commands using List.reverseRecOn generalizing i j a with
  | nil =>
    obtain ⟨hlt, -⟩ := List.getElem?_eq_some_iff.1 hi
    obtain rfl := (List.getElem?_inj hlt hs.nodup).1 (hi.trans hj.symm)
    exact .refl i
  | append_singleton commands command ih =>
    obtain ⟨m, c⟩ := command
    have hold : ∀ i j a, (s.run commands).roots[i]? = some a →
        (s.run commands).roots[j]? = some a → s.SameFamily (commands ++ [(m, c)]) i j :=
      fun i j a hi hj => (ih i j a hi hj).append _
    have hequiv : Equivalence (s.SameFamily (commands ++ [(m, c)])) :=
      Relation.EqvGen.is_equivalence _
    rw [run_concat] at hi hj
    cases hm : (s.run commands).handle? m with
    | none =>
      rw [after_of_handle?_eq_none hm] at hi hj
      exact hold i j a hi hj
    | some g =>
      rcases (change_after hm c).roots hm with hroots | ⟨path, view, rfl, hview, hroots⟩ | hroots
      · rw [hroots] at hi hj
        exact hold i j a hi hj
      · rw [hroots] at hi hj
        refine related_concat hequiv hold (fun i hi => ?_) i j a hi hj
        have hstep : s.ViewStep (commands ++ [(m, .narrow path)]) m (s.run commands).roots.length
            (g.view.segments path) :=
          ⟨commands, path, [], g, view, rfl, hm, hview, List.length_map _, rfl⟩
        exact hequiv.trans (hold i m g.tree hi (roots_of_handle? hm)) (.rel _ _ ⟨_, hstep⟩)
      · -- No handle has looked at the new tree before.
        rw [hroots] at hi hj
        refine related_concat hequiv hold (fun i hi => ?_) i j a hi hj
        obtain ⟨k, hk, htree⟩ := List.mem_map.1 (List.mem_of_getElem? hi)
        exact absurd htree (Nat.ne_of_lt ((hs.sound.run commands) k hk))

theorem tree_eq_iff_sameFamily (hs : s.Independent) (hi : (s.run commands).handle? i = some h)
    (hj : (s.run commands).handle? j = some k) :
    h.tree = k.tree ↔ s.SameFamily commands i j := by
  constructor
  · intro htree
    have hroot := roots_of_handle? hi
    rw [htree] at hroot
    exact sameFamily_of_roots_eq hs commands i j k.tree hroot (roots_of_handle? hj)
  · intro hf
    have hroots := roots_eq_of_sameFamily hf
    rw [roots_of_handle? hi, roots_of_handle? hj] at hroots
    exact Option.some.inj hroots

theorem Change.treeOf (hu : Change u i h c u') (hne : h.tree ≠ k.tree)
    (hk : k.tree < u.trees.length) : u'.treeOf k = u.treeOf k := by
  cases hu with
  | edit _ t =>
    change ((u.trees.set h.tree t)[k.tree]?).getD .empty = _
    rw [List.getElem?_set_ne hne]
    rfl
  | configure | extend | narrow => rfl
  | separate _ t | restore t =>
    change ((u.trees ++ [_])[k.tree]?).getD .empty = _
    rw [List.getElem?_append_left hk]
    rfl

theorem data_after_of_apart (hs : s.Independent) (hj : (s.run commands).handle? j = some k)
    (hf : ¬ s.SameFamily commands i j) (c : Command) :
    ((s.run commands).after i c).handle? j = some k ∧
      ((s.run commands).after i c).data k = (s.run commands).data k := by
  cases hi : (s.run commands).handle? i with
  | none =>
    rw [after_of_handle?_eq_none hi]
    exact ⟨hj, rfl⟩
  | some h =>
    have hij : j ≠ i := by
      rintro rfl
      exact hf (.refl j)
    have hne : h.tree ≠ k.tree := fun he => hf ((tree_eq_iff_sameFamily hs hi hj).1 he)
    have hlt : k.tree < (s.run commands).trees.length :=
      (hs.sound.run commands) k (mem_of_handle? hj)
    refine ⟨handle?_after_of_ne hij hj c, ?_⟩
    rw [data, data, (change_after hi c).treeOf hne hlt]

theorem data_run_of_apart (hs : s.Independent) (hj : (s.run commands).handle? j = some k)
    (hf : ∀ command ∈ more, ¬ s.SameFamily (commands ++ more) command.1 j) :
    (s.run (commands ++ more)).handle? j = some k ∧
      (s.run (commands ++ more)).data k = (s.run commands).data k := by
  induction more using List.reverseRecOn with
  | nil =>
    rw [List.append_nil]
    exact ⟨hj, rfl⟩
  | append_singleton more command ih =>
    -- What is no family of the whole run is none of a shorter one, for families only grow.
    rw [← List.append_assoc] at hf ⊢
    obtain ⟨hk, hdata⟩ := ih fun command hm hf' =>
      hf command (List.mem_append_left _ hm) (hf'.append _)
    have hlast : ¬ s.SameFamily (commands ++ more) command.1 j := fun hf' =>
      hf command (List.mem_append_right _ List.mem_cons_self) (hf'.append _)
    obtain ⟨hk', hdata'⟩ := data_after_of_apart hs hk hlast command.2
    rw [run_concat]
    exact ⟨hk', hdata'.trans hdata⟩

theorem handle?_after_of_addsTree (hi : u.handle? i = some h) (hc : c.AddsTree) :
    ∃ g, (u.after i c).handle? u.handles.length = some g ∧ g.tree = u.trees.length := by
  cases c with
  | detach | unwrap | sibling | restore =>
    rw [after_of_suits hi rfl]
    exact ⟨_, handle?_addHandle_length _ _, rfl⟩
  | set | place | unset | setData | setForceCreate | setPolicy | addDelimiters | narrow =>
    exact absurd hc id

/-- A handle on a new tree stays in a family apart from those of the handles before it. -/
theorem not_sameFamily_of_addsTree (hs : s.Independent)
    (hi : (s.run commands).handle? i = some h) (hc : c.AddsTree)
    (hj : (s.run commands).handle? j = some k) (more : List (ℕ × Command)) :
    ¬ s.SameFamily (commands ++ (i, c) :: more) j (s.run commands).handles.length := by
  have hrun : s.run (commands ++ (i, c) :: more) = ((s.run commands).after i c).run more :=
    run_append s commands _
  obtain ⟨g, hg, hroot⟩ := handle?_after_of_addsTree hi hc
  obtain ⟨g', hg', hgl⟩ := later_run hg more
  obtain ⟨k', hk', hkl⟩ := later_after hj i c
  obtain ⟨k'', hk'', hkl'⟩ := later_run hk' more
  intro hf
  rw [← hrun] at hg' hk''
  have htree := (tree_eq_iff_sameFamily hs hk'' hg').2 hf
  rw [hkl'.tree_eq, hkl.tree_eq, hgl.tree_eq, hroot] at htree
  exact absurd htree (Nat.ne_of_lt ((hs.sound.run commands) k (mem_of_handle? hj)))

/-- Handles look at one tree exactly when they are connected by views. A command through one family
leaves the nodes of every other family as they are, whatever comes next, and no command changes the
configuration of another handle. A handle on a new tree begins a family that never meets another. -/
theorem families_isolated (s : Session) (hs : s.Independent) (commands : List (ℕ × Command)) :
    let u := s.run commands
    (∀ i j h k, u.handle? i = some h → u.handle? j = some k →
      (h.tree = k.tree ↔ s.SameFamily commands i j)) ∧
    (∀ i j k c, u.handle? j = some k → ¬ s.SameFamily commands i j →
      (u.after i c).handle? j = some k ∧ (u.after i c).data k = u.data k) ∧
    (∀ i j k c, u.handle? j = some k → j ≠ i → (u.after i c).handle? j = some k) ∧
    (∀ j k more, u.handle? j = some k →
      (∀ command ∈ more, ¬ s.SameFamily (commands ++ more) command.1 j) →
      (u.run more).handle? j = some k ∧ (u.run more).data k = u.data k) ∧
    (∀ i j h k c more, u.handle? i = some h → c.AddsTree → u.handle? j = some k →
      ¬ s.SameFamily (commands ++ (i, c) :: more) j u.handles.length) := by
  intro u
  refine ⟨?_, ?_, ?_, ?_, ?_⟩
  · intro i j h k hi hj
    exact tree_eq_iff_sameFamily hs hi hj
  · intro i j k c hj hf
    exact data_after_of_apart hs hj hf c
  · intro i j k c hj hij
    exact handle?_after_of_ne hij hj c
  · intro j k more hj hf
    have hdata := data_run_of_apart hs hj hf
    rwa [run_append] at hdata
  · intro i j h k c more hi hc hj
    exact not_sameFamily_of_addsTree hs hi hc hj more

/-- A copy of a view: a write through the copy shows in the copy alone. -/
theorem families_isolated_after_detach :
    let s := ofTree (.branch [("a", .branch [("x", .leaf .null)])]) {} false
    let commands := [(0, .narrow (.text "a")), (1, .detach)]
    let more := [(2, .set (.text "x") (.bool true) none)]
    let u := s.run commands
    let view : Handle := ⟨0, ⟨["a"], {}⟩, false⟩
    let copy : Handle := ⟨1, ⟨[], {}⟩, false⟩
    u.handles[1]? = some view ∧ u.handles[2]? = some copy ∧ u.data copy = u.data view ∧
      s.SameFamily commands 0 1 ∧ ¬ s.SameFamily (commands ++ more) 1 2 ∧
      (u.run more).data view = u.data view ∧
      (u.run more).data copy = .branch [("x", .leaf (.bool true))] := by
  intro s commands more u view copy
  have hs : s.Independent := independent_ofTree _ _ _
  obtain ⟨hshared, -, -, hrun, -⟩ := families_isolated s hs commands
  obtain ⟨-, -, -, -, hnew⟩ := families_isolated s hs [(0, .narrow (.text "a"))]
  have hviews : s.SameFamily commands 0 1 := (hshared 0 1 _ view rfl rfl).1 rfl
  have hapart : ¬ s.SameFamily (commands ++ more) 1 2 :=
    hnew 1 1 view view .detach more rfl trivial rfl
  have hdata : (u.run more).data view = u.data view := by
    refine (hrun 1 view more rfl fun command hm hf => ?_).2
    rw [List.mem_singleton.1 hm] at hf
    exact hapart (.symm _ _ hf)
  exact ⟨rfl, rfl, rfl, hviews, hapart, hdata, rfl⟩

end Session
end NestedData
