import NestedData.Proofs.Session.Runs
/-!
Views as longer paths. A view has the tree of the handle that it comes from, and a base that
continues the base of that handle; both stay what they are. So whatever is done through the view can
be done through the handle, at the path that goes through the base of the view, for as long as the
two have the same configuration.
-/

namespace NestedData

theorem PathSpec.leaves_ofSegments (segments : List String) :
    Nest.leaves (PathSpec.ofSegments segments) = segments.map Fragment.atom := by
  unfold PathSpec.ofSegments
  rw [Nest.leaves]
  induction segments with
  | nil => rfl
  | cons a rest ih => simp [Nest.leavesOf, ih, PathSpec.atom, Nest.leaves]

theorem PathSpec.segments_ofSegments (delimiters segments : List String) :
    (PathSpec.ofSegments segments).segments delimiters = segments := by
  unfold PathSpec.segments PathSpec.isEmpty
  rw [leaves_ofSegments]
  cases segments with
  | nil => rfl
  | cons a rest => simp [Fragment.isEmpty, Fragment.segments, List.flatMap_map]

inductive ErrorKind where
  | noHandle
  | unsupported
  | unreachable
  | notAddressable
  deriving DecidableEq, Repr

def AccessError.kind : AccessError → ErrorKind
  | .unreachable .. => .unreachable
  | .notAddressable _ => .notAddressable

def CommandError.kind : CommandError → ErrorKind
  | .noHandle => .noHandle
  | .unsupported => .unsupported
  | .access e => e.kind

namespace Tree.Edited

variable {ε ε' ε'' : Type}

theorem mapError_mapError (f : ε → ε') (g : ε' → ε'') (r : Edited ε) :
    (r.mapError f).mapError g = r.mapError (g ∘ f) := by
  obtain ⟨t, result⟩ := r
  cases result <;> rfl

end Tree.Edited

namespace View

variable {w w' : View} {q path : PathSpec}

def obstacleKind : Tree.Obstacle → ErrorKind
  | .leaf _ => .notAddressable
  | .missing _ => .unreachable

theorem kind_obstructed (w : View) (full : List String) :
    AccessError.kind ∘ w.obstructed full = obstacleKind := by
  funext o
  cases o <;> rfl

/-- A write depends on the absolute path alone, except for what its error names. -/
theorem place_same_path (ha : w.absolute q = w'.absolute path)
    (hc : w.config = w'.config) (node : Tree) (force : Option Bool) (t : Tree) :
    (w.place q node force t).mapError AccessError.kind =
      (w'.place path node force t).mapError AccessError.kind := by
  unfold place
  dsimp only
  rw [Tree.Edited.mapError_mapError, Tree.Edited.mapError_mapError, kind_obstructed,
    kind_obstructed, ha, hc]

theorem set_same_path (ha : w.absolute q = w'.absolute path) (hc : w.config = w'.config)
    (v : Value) (force : Option Bool) (t : Tree) :
    (w.set q v force t).mapError AccessError.kind =
      (w'.set path v force t).mapError AccessError.kind := by
  unfold set
  rw [hc]
  exact place_same_path ha hc _ force t

theorem unset_same_path (ha : w.absolute q = w'.absolute path) (hc : w.config = w'.config)
    (hq : w.segments q ≠ []) (hpath : w'.segments path ≠ []) (t : Tree) :
    (w.unset q t).mapError AccessError.kind = (w'.unset path t).mapError AccessError.kind := by
  unfold unset
  rw [if_neg (by simpa using hq), if_neg (by simpa using hpath), ha, hc]
  dsimp only
  cases (t.remove (w'.absolute path)).result with
  | ok => rfl
  | error found =>
    by_cases hp : w'.config.policy = .strict
    · dsimp only
      rw [if_pos hp, if_pos hp]
      rfl
    · dsimp only
      rw [if_neg hp, if_neg hp]

end View

namespace Session

variable {s : Session} {commands : List (ℕ × Command)} {i j : ℕ} {h v : Handle}
  {segments : List String}

/-- In the run, the `j`-th handle has come as a view of the `i`-th one, at the segments. -/
def ViewStep (s : Session) (commands : List (ℕ × Command)) (i j : ℕ) (segments : List String) :
    Prop :=
  ∃ before path rest h view, commands = before ++ (i, .narrow path) :: rest ∧
    (s.run before).handle? i = some h ∧
    h.view.narrow path ((s.run before).treeOf h) = .ok view ∧
    j = (s.run before).handles.length ∧ segments = h.view.segments path

/-- The `j`-th handle has come from the `i`-th one by views of views, at the segments together. -/
inductive ViewedAt (s : Session) (commands : List (ℕ × Command)) (i : ℕ) :
    List String → ℕ → Prop
  | self : ViewedAt s commands i [] i
  | step {segments more : List String} {j k : ℕ} : ViewedAt s commands i segments j →
      ViewStep s commands j k more → ViewedAt s commands i (segments ++ more) k

theorem ViewStep.handles (hv : s.ViewStep commands i j segments) :
    ∃ h v, (s.run commands).handle? i = some h ∧ (s.run commands).handle? j = some v ∧
      v.tree = h.tree ∧ v.view.base = h.view.base ++ segments := by
  obtain ⟨before, path, rest, h, view, rfl, hi, hview, rfl, rfl⟩ := hv
  have hbase : view.base = h.view.base ++ h.view.segments path := by
    rw [View.eq_of_narrow hview]
    rfl
  have hrun : s.run (before ++ (i, .narrow path) :: rest) =
      ((s.run before).addHandle { h with view }).run rest := by
    rw [← after_narrow hi hview, run_append]
    rfl
  rw [hrun]
  obtain ⟨h', hh', hl⟩ := later_run (handle?_addHandle_of_some hi) rest
  obtain ⟨v', hv', hl'⟩ := later_run (handle?_addHandle_length _ { h with view }) rest
  refine ⟨h', v', hh', hv', hl'.tree_eq.trans hl.tree_eq.symm, ?_⟩
  rw [hl'.base_eq, hl.base_eq]
  exact hbase

theorem ViewedAt.handle (hv : s.ViewedAt commands i segments j)
    (hi : (s.run commands).handle? i = some h) :
    ∃ v, (s.run commands).handle? j = some v ∧ v.tree = h.tree ∧
      v.view.base = h.view.base ++ segments := by
  induction hv with
  | self => exact ⟨h, hi, rfl, (List.append_nil _).symm⟩
  | @step segments more j k _ hstep ih =>
    obtain ⟨v, hj, htree, hbase⟩ := ih
    obtain ⟨v', u, hj', hk, htree', hbase'⟩ := hstep.handles
    obtain rfl := Option.some.inj (hj.symm.trans hj')
    exact ⟨u, hk, htree'.trans htree, by rw [hbase', hbase, List.append_assoc]⟩

theorem same_edit {c c' : Command} {r r' : Tree.Edited AccessError}
    (hj : s.handle? j = some v) (hi : s.handle? i = some h) (htree : v.tree = h.tree)
    (hc : Command.suits v c = true) (hc' : Command.suits h c' = true)
    (hr : s.apply j v c = s.settle v r) (hr' : s.apply i h c' = s.settle h r')
    (hrr : r.mapError AccessError.kind = r'.mapError AccessError.kind) :
    s.after j c = s.after i c' ∧
      (s.step j c).mapError CommandError.kind = (s.step i c').mapError CommandError.kind := by
  obtain ⟨ht, hresult⟩ := Tree.Edited.mk.inj hrr
  have hafter : s.after j c = s.after i c' := by
    rw [after_of_suits hj hc, after_of_suits hi hc', hr, hr']
    change s.setTree v r.tree = s.setTree h r'.tree
    unfold setTree
    rw [htree, ht]
  refine ⟨hafter, ?_⟩
  have hstep : s.step j c = (r.result.map fun _ => s.after j c).mapError .access := by
    rw [step_of_suits hj hc, hr]
    rfl
  have hstep' : s.step i c' = (r'.result.map fun _ => s.after i c').mapError .access := by
    rw [step_of_suits hi hc', hr']
    rfl
  rw [hstep, hstep', hafter]
  cases hok : r.result with
  | ok =>
    cases hok' : r'.result with
    | ok => rfl
    | error e => rw [hok, hok'] at hresult; cases hresult
  | error e =>
    cases hok' : r'.result with
    | ok => rw [hok, hok'] at hresult; cases hresult
    | error e' =>
      rw [hok, hok'] at hresult
      have hkind : e.kind = e'.kind := Except.error.inj hresult
      change Except.error (CommandError.access e).kind = Except.error (CommandError.access e').kind
      rw [CommandError.kind, hkind]
      rfl

/-- A view of views is its first handle at a longer path: while both have the same configuration,
reading, writing and removing at a path through the view is the same as through the handle at the
segments that lead to the view, followed by those of the path. -/
theorem view_at_longer_path (s : Session) (commands : List (ℕ × Command)) (i j : ℕ)
    (segments : List String) (h : Handle) (hview : s.ViewedAt commands i segments j)
    (hi : (s.run commands).handle? i = some h) :
    ∃ v, (s.run commands).handle? j = some v ∧
      (v.view.config = h.view.config → ∀ q : PathSpec,
        let u := s.run commands
        let path := PathSpec.ofSegments (segments ++ v.view.segments q)
        v.view.find? q (u.treeOf v) = h.view.find? path (u.treeOf h) ∧
        (∀ value force,
          u.after j (.set q value force) = u.after i (.set path value force) ∧
          (u.step j (.set q value force)).mapError CommandError.kind =
            (u.step i (.set path value force)).mapError CommandError.kind) ∧
        (v.view.segments q ≠ [] →
          u.after j (.unset q) = u.after i (.unset path) ∧
          (u.step j (.unset q)).mapError CommandError.kind =
            (u.step i (.unset path)).mapError CommandError.kind)) := by
  obtain ⟨v, hj, htree, hbase⟩ := hview.handle hi
  refine ⟨v, hj, fun hc q => ?_⟩
  intro u path
  have hsegments : h.view.segments path = segments ++ v.view.segments q :=
    PathSpec.segments_ofSegments _ _
  have habsolute : v.view.absolute q = h.view.absolute path := by
    rw [View.absolute, View.absolute, hsegments, hbase, List.append_assoc]
  have hroot : u.treeOf v = u.treeOf h := by rw [treeOf, treeOf, htree]
  refine ⟨?_, ?_, ?_⟩
  · rw [View.find?, View.find?, habsolute, hroot]
  · intro value force
    refine same_edit hj hi htree rfl rfl rfl rfl ?_
    rw [hroot]
    exact View.set_same_path habsolute hc value force _
  · intro hq
    refine same_edit hj hi htree rfl rfl rfl rfl ?_
    have hpath : h.view.segments path ≠ [] := by
      rw [hsegments]
      exact List.append_ne_nil_of_right_ne_nil _ hq
    rw [hroot]
    exact View.unset_same_path habsolute hc hq hpath _

/-- A view of a view of what is missing, below a place where a leaf has been written since. -/
theorem view_at_longer_path_through_leaf :
    let s := ofTree .empty { policy := .silent } false
    let commands := [(0, .narrow (.text "a.b")), (1, .narrow (.text "c")),
      (0, .set (.text "a") (.bool true) none)]
    let u := s.run commands
    let path := PathSpec.ofSegments ["a", "b", "c", "d"]
    u.handle? 2 = some ⟨0, ⟨["a", "b", "c"], { policy := .silent }⟩, false⟩ ∧
      u.trees = [.branch [("a", .leaf (.bool true))]] ∧
      (u.step 2 (.set (.text "d") .null none)).mapError CommandError.kind =
        (u.step 0 (.set path .null none)).mapError CommandError.kind ∧
      u.step 2 (.set (.text "d") .null none) = .error (.access (.notAddressable "a")) ∧
      u.after 2 (.set (.text "d") .null (some true)) = u.after 0 (.set path .null (some true)) ∧
      u.after 2 (.unset (.text "d")) = u.after 0 (.unset path) := by
  intro s commands u path
  let h : Handle := ⟨0, ⟨[], { policy := .silent }⟩, false⟩
  have hfirst : s.ViewStep commands 0 1 ["a", "b"] :=
    ⟨[], .text "a.b", _, h, ⟨["a", "b"], h.view.config⟩, rfl, rfl, rfl, rfl, rfl⟩
  have hsecond : s.ViewStep commands 1 2 ["c"] :=
    ⟨[(0, .narrow (.text "a.b"))], .text "c", _, ⟨0, ⟨["a", "b"], h.view.config⟩, false⟩,
      ⟨["a", "b", "c"], h.view.config⟩, rfl, rfl, rfl, rfl, rfl⟩
  obtain ⟨v, hv, hsame⟩ := view_at_longer_path s commands 0 2 _ h
    (.step (.step .self hfirst) hsecond) rfl
  obtain rfl : ⟨0, ⟨["a", "b", "c"], h.view.config⟩, false⟩ = v := Option.some.inj hv
  obtain ⟨-, hset, hunset⟩ := hsame rfl (.text "d")
  exact ⟨hv, rfl, (hset .null none).2, rfl, (hset .null (some true)).1, (hunset (by decide)).1⟩

end Session
end NestedData
