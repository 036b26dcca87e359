import NestedData.Proofs.Session.Commands
/-!
Runs of commands. A command through a handle edits the tree of the handle, changes its configuration
or adds one handle, on the same tree or on a new one. So the handles that there are keep their
trees, their bases and their delimiters, and only the handle that a command goes through may change
at all.
-/

namespace NestedData

/-- What becomes of a handle: it looks at the same place, and no delimiter is taken from it. -/
structure Handle.Later (h h' : Handle) : Prop where
  tree_eq : h'.tree = h.tree
  base_eq : h'.view.base = h.view.base
  dotted_eq : h'.dotted = h.dotted
  delimiters_prefix : h.view.config.delimiters <+: h'.view.config.delimiters

namespace Handle.Later

variable {h h' h'' : Handle}

theorem refl (h : Handle) : h.Later h := ⟨rfl, rfl, rfl, List.prefix_rfl⟩

theorem trans (hl : h.Later h') (hl' : h'.Later h'') : h.Later h'' :=
  ⟨hl'.tree_eq.trans hl.tree_eq, hl'.base_eq.trans hl.base_eq, hl'.dotted_eq.trans hl.dotted_eq,
    hl.delimiters_prefix.trans hl'.delimiters_prefix⟩

end Handle.Later

theorem View.eq_of_narrow {w v : View} {path : PathSpec} {t : Tree} (h : w.narrow path t = .ok v) :
    v = { w with base := w.absolute path } := by
  unfold View.narrow at h
  split at h
  · cases h
  · exact (Except.ok.inj h).symm

namespace Session

variable {s u : Session} {i j : ℕ} {h h' : Handle} {c : Command}

theorem handle?_setConfig_of_ne (hij : j ≠ i) (config : Config) :
    (s.setConfig i h' config).handle? j = s.handle? j :=
  List.getElem?_set_ne (Ne.symm hij)

theorem handle?_setConfig_self (hi : s.handle? i = some h) (config : Config) :
    (s.setConfig i h' config).handle? i =
      some { h' with view := { h'.view with config } } := by
  obtain ⟨hlt, -⟩ := List.getElem?_eq_some_iff.1 hi
  exact List.getElem?_set_self hlt

theorem handle?_addHandle_of_some (hj : s.handle? j = some h) :
    (s.addHandle h').handle? j = some h := by
  obtain ⟨hlt, -⟩ := List.getElem?_eq_some_iff.1 hj
  exact (List.getElem?_append_left hlt).trans hj

theorem handle?_addHandle_length (s : Session) (h : Handle) :
    (s.addHandle h).handle? s.handles.length = some h := List.getElem?_concat_length

theorem forall_setConfig {P : Handle → Prop} (hs : ∀ k ∈ s.handles, P k) {config : Config}
    (hP : P { h with view := { h.view with config } }) :
    ∀ k ∈ (s.setConfig i h config).handles, P k := by
  intro k hk
  rcases List.mem_or_eq_of_mem_set hk with hk | rfl
  · exact hs k hk
  · exact hP

theorem forall_addHandle {P : Handle → Prop} (hs : ∀ k ∈ s.handles, P k) (hP : P h) :
    ∀ k ∈ (s.addHandle h).handles, P k :=
  List.forall_mem_append.2 ⟨hs, List.forall_mem_singleton.2 hP⟩

theorem mem_of_handle? (hi : s.handle? i = some h) : h ∈ s.handles := List.mem_of_getElem? hi

/-- What a command through the handle `h`, the `i`-th one, can make of a session. -/
inductive Change (s : Session) (i : ℕ) (h : Handle) : Command → Session → Prop
  /-- A command that does nothing leaves the tree that there was. -/
  | edit (c : Command) (t : Tree) : Change s i h c (s.setTree h t)
  | configure (c : Command) (config : Config)
      (hconfig : config.delimiters = h.view.config.delimiters) :
      Change s i h c (s.setConfig i h config)
  | extend (ds : List String) (hdotted : h.dotted = false) :
      Change s i h (.addDelimiters ds) (s.setConfig i h (h.view.config.addDelimiters ds))
  | narrow (path : PathSpec) (view : View) (hview : h.view.narrow path (s.treeOf h) = .ok view) :
      Change s i h (.narrow path) (s.addHandle { h with view })
  | separate (c : Command) (t : Tree) (dotted : Bool) :
      Change s i h c (s.addTree t h.view.config dotted)
  | restore (snapshot : Snapshot) :
      Change s i h (.restore snapshot) (s.addTree snapshot.tree snapshot.config false)

theorem change_self : Change s i h c s := by
  have hs := Change.edit (s := s) (i := i) (h := h) c (s.treeOf h)
  rwa [setTree_treeOf] at hs

theorem after_of_handle?_eq_none (hi : s.handle? i = none) (c : Command) : s.after i c = s := by
  unfold after
  rw [hi]

theorem after_of_suits (hi : s.handle? i = some h) (hc : Command.suits h c = true) :
    s.after i c = (s.apply i h c).1 := by
  unfold after
  rw [hi]
  exact if_pos hc

theorem step_of_suits (hi : s.handle? i = some h) (hc : Command.suits h c = true) :
    s.step i c = ((s.apply i h c).2.map fun _ => s.after i c).mapError .access := by
  unfold step
  rw [hi]
  exact if_pos hc

theorem change_after (hi : s.handle? i = some h) (c : Command) : Change s i h c (s.after i c) := by
  cases hc : Command.suits h c with
  | false =>
    have hs : s.after i c = s := by
      unfold after
      rw [hi]
      exact if_neg (by simp [hc])
    rw [hs]
    exact change_self
  | true =>
    rw [after_of_suits hi hc]
    cases c with
    | set | place | unset | setData => exact .edit _ _
    | setForceCreate | setPolicy => exact .configure _ _ rfl
    | addDelimiters ds => exact .extend ds (by simpa [Command.suits] using hc)
    | narrow path =>
      cases hview : h.view.narrow path (s.treeOf h) with
      | ok view =>
        rw [apply, hview]
        exact .narrow path view hview
      | error e =>
        rw [apply, hview]
        exact change_self
    | detach | unwrap | sibling => exact .separate _ _ _
    | restore snapshot => exact .restore snapshot

theorem after_narrow {path : PathSpec} {view : View} (hi : s.handle? i = some h)
    (hview : h.view.narrow path (s.treeOf h) = .ok view) :
    s.after i (.narrow path) = s.addHandle { h with view } := by
  rw [after_of_suits hi rfl, apply, hview]

theorem after_addDelimiters (hi : s.handle? i = some h) (hdotted : h.dotted = false)
    (ds : List String) :
    s.after i (.addDelimiters ds) = s.setConfig i h (h.view.config.addDelimiters ds) :=
  after_of_suits hi (by simp [Command.suits, hdotted])

theorem Change.handle?_of_ne (hu : Change s i h' c u) (hij : j ≠ i) (hj : s.handle? j = some h) :
    u.handle? j = some h := by
  cases hu with
  | edit => exact hj
  | configure | extend => exact (handle?_setConfig_of_ne hij _).trans hj
  | narrow | separate | restore => exact handle?_addHandle_of_some hj

/-- A command leaves every handle alone but the one that it goes through. -/
theorem handle?_after_of_ne (hij : j ≠ i) (hj : s.handle? j = some h) (c : Command) :
    (s.after i c).handle? j = some h := by
  cases hi : s.handle? i with
  | none => rwa [after_of_handle?_eq_none hi]
  | some k => exact (change_after hi c).handle?_of_ne hij hj

theorem Change.later (hu : Change s i h c u) (hi : s.handle? i = some h) :
    ∃ h', u.handle? i = some h' ∧ h.Later h' := by
  cases hu with
  | edit => exact ⟨h, hi, .refl h⟩
  | configure _ config hconfig =>
    have hprefix : h.view.config.delimiters <+: config.delimiters :=
      ⟨[], by rw [List.append_nil, hconfig]⟩
    exact ⟨_, handle?_setConfig_self hi _, rfl, rfl, rfl, hprefix⟩
  | extend ds => exact ⟨_, handle?_setConfig_self hi _, rfl, rfl, rfl, List.prefix_append _ ds⟩
  | narrow | separate | restore => exact ⟨h, handle?_addHandle_of_some hi, .refl h⟩

theorem later_after (hj : s.handle? j = some h) (i : ℕ) (c : Command) :
    ∃ h', (s.after i c).handle? j = some h' ∧ h.Later h' := by
  by_cases hij : j = i
  · subst hij
    exact (change_after hj c).later hj
  · exact ⟨h, handle?_after_of_ne hij hj c, .refl h⟩

variable {commands : List (ℕ × Command)}

theorem run_append (s : Session) (commands more : List (ℕ × Command)) :
    s.run (commands ++ more) = (s.run commands).run more := List.foldl_append

theorem run_concat (s : Session) (commands : List (ℕ × Command)) (i : ℕ) (c : Command) :
    s.run (commands ++ [(i, c)]) = (s.run commands).after i c := run_append s commands [(i, c)]

theorem later_run (hj : s.handle? j = some h) (commands : List (ℕ × Command)) :
    ∃ h', (s.run commands).handle? j = some h' ∧ h.Later h' := by
  induction commands generalizing s h with
  | nil => exact ⟨h, hj, .refl h⟩
  | cons command rest ih =>
    obtain ⟨h₁, hh₁, hl⟩ := later_after hj command.1 command.2
    obtain ⟨h₂, hh₂, hl'⟩ := ih hh₁
    exact ⟨h₂, hh₂, hl.trans hl'⟩

def Sound (s : Session) : Prop := ∀ h ∈ s.handles, h.tree < s.trees.length

theorem Sound.addTree (hs : s.Sound) (t : Tree) (config : Config) (dotted : Bool) :
    (s.addTree t config dotted).Sound := by
  have hlen : (s.addTree t config dotted).trees.length = s.trees.length + 1 := by
    simp [Session.addTree]
  unfold Sound
  rw [hlen]
  exact forall_addHandle (fun k hk => Nat.lt_succ_of_lt (hs k hk)) (Nat.lt_succ_self _)

theorem Change.sound (hu : Change s i h c u) (hs : s.Sound) (hi : s.handle? i = some h) :
    u.Sound := by
  have hh : h.tree < s.trees.length := hs h (mem_of_handle? hi)
  cases hu with
  | edit _ t =>
    intro k hk
    rw [setTree, List.length_set]
    exact hs k hk
  | configure | extend => exact forall_setConfig hs hh
  | narrow => exact forall_addHandle hs hh
  | separate | restore => exact hs.addTree _ _ _

theorem Sound.after (hs : s.Sound) (i : ℕ) (c : Command) : (s.after i c).Sound := by
  cases hi : s.handle? i with
  | none => rwa [after_of_handle?_eq_none hi]
  | some h => exact (change_after hi c).sound hs hi

theorem Sound.run (hs : s.Sound) (commands : List (ℕ × Command)) : (s.run commands).Sound := by
  induction commands generalizing s with
  | nil => exact hs
  | cons command rest ih => exact ih (hs.after command.1 command.2)

end Session
end NestedData
