import NestedData.Proofs.Session.Views
import NestedData.Proofs.View.Removing
/-!
What an error says about a path. However a path is asked for, if it cannot be followed to its end
the error cuts it in two: the longest part of it that leads to a node, and what is left, which is
never empty. As long as the base of the view is there the two make up the path that was asked for;
when it is not, they make up the base and that path, and the cut is inside the base.
-/

namespace NestedData

namespace Tree

variable {t : Tree} {p q : List String} {n : ℕ}

/-- Of the parts of a path from its start, the longest that leads to a node. -/
structure Reach (find? : List String → Option Tree) (path covered : List String) : Prop where
  start : covered <+: path
  found : (find? covered).isSome
  longest : ∀ q, q <+: path → covered.length < q.length → find? q = none

theorem Reach.of_append {find? : List String → Option Tree} {base path covered : List String}
    (h : Reach find? (base ++ path) (base ++ covered)) :
    Reach (fun q => find? (base ++ q)) path covered := by
  refine ⟨(List.prefix_append_right_inj base).1 h.start, h.found, fun q hq hlt => ?_⟩
  exact h.longest _ ((List.prefix_append_right_inj base).2 hq) (by simpa using hlt)

theorem reach_of_walk_error (h : walk p t = .error n) :
    n < p.length ∧ Reach (fun q => t.find? q) p (p.take n) := by
  induction p generalizing t n with
  | nil => cases h
  | cons key p ih =>
    rw [walk] at h
    cases hc : t.child? key with
    | none =>
      rw [hc] at h
      obtain rfl := Except.error.inj h
      refine ⟨by simp, by simp, rfl, fun q hq hlt => ?_⟩
      cases q with
      | nil => simp at hlt
      | cons l q =>
        obtain ⟨rfl, -⟩ := List.cons_prefix_cons.1 hq
        rw [find?_cons, hc]
        rfl
    | some c =>
      rw [hc] at h
      obtain ⟨m, hm, rfl⟩ := mapError_eq_error_iff.1 h
      obtain ⟨hlt, -, hfound, hlongest⟩ := ih hm
      refine ⟨by simpa using hlt, List.take_prefix _ _, ?_, fun q hq hlt => ?_⟩
      · rw [List.take_succ_cons, find?_cons, hc]
        exact hfound
      · cases q with
        | nil => simp at hlt
        | cons l q =>
          obtain ⟨rfl, hqp⟩ := List.cons_prefix_cons.1 hq
          rw [find?_cons, hc]
          exact hlongest q hqp (by simpa using hlt)

end Tree

namespace View

open NestedData.Tree (Reach)

variable {w : View} {path : PathSpec} {t : Tree} {e : AccessError} {n : ℕ}

/-- The error is the answer to a path that cannot be followed: to a look-up, under the strict policy
or whatever the policy, to a view at the path, or to a removal. -/
inductive Reports (w : View) (path : PathSpec) (t : Tree) (e : AccessError) : Prop where
  | get (h : w.get path t = .error e)
  | lookup (h : w.lookup path t = .error e)
  | narrow (h : w.narrow path t = .error e)
  | unset (h : (w.unset path t).result = .error e)

/-- All of them report what a look-up reports. -/
theorem Reports.lookup_eq (h : w.Reports path t e) : w.lookup path t = .error e := by
  cases h with
  | lookup h => exact h
  | get h =>
    rw [View.get] at h
    cases hl : w.lookup path t with
    | ok node => rw [hl] at h; cases h
    | error e' =>
      rw [hl] at h
      dsimp only at h
      split at h
      · rw [Except.error.inj h]
      · cases h
  | narrow h =>
    rw [View.narrow] at h
    split at h
    · rename_i hl
      rw [hl, Except.error.inj h]
    · cases h
  | unset h =>
    by_cases hs : w.segments path = []
    · rw [w.unset_of_segments_eq_nil path t hs] at h
      cases h
    · cases hh : w.holds path t with
      | true => rw [unset_of_holds hs hh] at h; cases h
      | false =>
        obtain ⟨e', he'⟩ := holds_eq_false_iff.1 hh
        rw [unset_of_lookup_error hs he'] at h
        split at h
        · rw [he', Except.error.inj h]
        · cases h

theorem find?_ofSegments (w : View) (q : List String) (t : Tree) :
    w.find? (.ofSegments q) t = t.find? (w.base ++ q) := by
  rw [find?, absolute, segments, PathSpec.segments_ofSegments]

/-- The base of a view is among what is found of a path through the view just when it is there. -/
theorem base_length_le_iff (h : t.walk (w.absolute path) = .error n) :
    w.base.length ≤ n ↔ (t.find? w.base).isSome := by
  obtain ⟨hlt, hreach⟩ := Tree.reach_of_walk_error h
  have hbase : w.base <+: w.absolute path := List.prefix_append _ _
  constructor
  · intro hle
    exact Tree.find?_isSome_above (List.prefix_take_iff.2 ⟨hbase, hle⟩) hreach.found
  · intro hfound
    by_contra hle
    have hcovered : ((w.absolute path).take n).length < w.base.length := by
      rw [List.length_take_of_le (Nat.le_of_lt hlt)]
      omega
    rw [hreach.longest w.base hbase hcovered] at hfound
    cases hfound

/-- An error about a path that cannot be followed is cut from the path at a place inside it, and
leaves at least one segment. Where the base of the view is there, the error is about the path that
was asked for, and covers the longest part of it that leads to a node from the view. Where it is
not, the error is about the path from the root, and covers the longest part of that which leads to a
node. -/
theorem error_names_longest_reach (h : w.Reports path t e) :
    ∃ n covered remaining, t.walk (w.absolute path) = .error n ∧
      w.hidden n ≤ n ∧ n ≤ (w.absolute path).length ∧ e = w.unreachable (w.absolute path) n ∧
      e = .unreachable covered remaining w.config.main ∧ remaining ≠ [] ∧
      ((t.find? w.base).isSome → e.fullPath = w.segments path ∧
        Reach (fun q => w.find? (.ofSegments q) t) (w.segments path) covered) ∧
      (t.find? w.base = none → e.fullPath = w.absolute path ∧
        Reach (fun q => t.find? q) (w.absolute path) covered) := by
  obtain ⟨n, hwalk, rfl⟩ := Tree.mapError_eq_error_iff.1 h.lookup_eq
  obtain ⟨hlt, hreach⟩ := Tree.reach_of_walk_error hwalk
  have hhidden : w.hidden n ≤ n := by
    unfold hidden
    split
    · assumption
    · exact Nat.zero_le n
  refine ⟨n, _, _, hwalk, hhidden, Nat.le_of_lt hlt, rfl, rfl, ?_, fun hbase => ?_, fun hbase => ?_⟩
  · simpa using hlt
  · have hle : w.base.length ≤ n := (base_length_le_iff hwalk).2 hbase
    have htake : (w.absolute path).take n =
        w.base ++ (w.segments path).take (n - w.base.length) := by
      rw [absolute, List.take_append, List.take_of_length_le hle]
    have hcovered : ((w.absolute path).take n).drop (w.hidden n) =
        (w.segments path).take (n - w.base.length) := by
      rw [htake, hidden, if_pos hle, List.drop_left]
    have hremaining : (w.absolute path).drop n =
        (w.segments path).drop (n - w.base.length) := by
      rw [absolute, List.drop_append, List.drop_of_length_le hle, List.nil_append]
    rw [unreachable, hcovered, hremaining]
    refine ⟨List.take_append_drop _ _, ?_⟩
    simp only [find?_ofSegments]
    rw [htake] at hreach
    exact hreach.of_append
  · have hhidden : w.hidden n = 0 := by
      rw [hidden, if_neg]
      rw [base_length_le_iff hwalk, hbase]
      exact Bool.false_ne_true
    rw [unreachable, hhidden, List.drop_zero]
    exact ⟨List.take_append_drop _ _, hreach⟩

/-- A removal through a view that ends at a leaf below its base, and a look-up through it after the
leaf has taken the place of a branch on the way to the base. -/
theorem error_names_longest_reach_past_base :
    let w : View := { base := ["a", "b"] }
    let t : Tree := .branch [("a", .branch [("b", .branch [("x", .leaf .null)])])]
    let u : Tree := .branch [("a", .leaf .null)]
    w.Reports (.text "x.y.z") t (.unreachable ["x"] ["y", "z"] ".") ∧
      Reach (fun q => w.find? (.ofSegments q) t) ["x", "y", "z"] ["x"] ∧
      w.Reports (.atom "x.y") u (.unreachable ["a"] ["b", "x.y"] ".") ∧
      Reach (fun q => u.find? q) ["a", "b", "x.y"] ["a"] := by
  intro w t u
  have hunset : w.Reports (.text "x.y.z") t (.unreachable ["x"] ["y", "z"] ".") := .unset rfl
  have hget : w.Reports (.atom "x.y") u (.unreachable ["a"] ["b", "x.y"] ".") := .get rfl
  obtain ⟨-, _, _, -, -, -, -, ⟨⟩, -, hthere, -⟩ := error_names_longest_reach hunset
  obtain ⟨-, _, _, -, -, -, -, ⟨⟩, -, -, hgone⟩ := error_names_longest_reach hget
  exact ⟨hunset, (hthere rfl).2, hget, (hgone rfl).2⟩

end View
end NestedData
