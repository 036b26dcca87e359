import NestedData.Proofs.Tree.Keys
/-!
Empty paths and joined paths. A path is empty when all fragments in its lists are, however deep they
stand, and only such a path has no segments. Joining brings the fragments of two paths together, so
that unless one of the paths is empty the segments of the one are followed by those of the other.
-/

namespace NestedData

theorem Nest.leaves_list {α : Type} (items : List (Nest α)) :
    leaves (.list items) = items.flatMap leaves := by
  rw [leaves]
  induction items with
  | nil => rfl
  | cons x xs ih => rw [leavesOf, ih, List.flatMap_cons]

mutual
theorem Nest.spreadOne_unbounded {α : Type} :
    ∀ nest : Nest α, spreadOne .unbounded nest = (leaves nest).map .item
  | .item a => rfl
  | .list items => by
    rw [spreadOne, if_neg nofun, leaves]
    exact spread_unbounded items

theorem Nest.spread_unbounded {α : Type} :
    ∀ items : List (Nest α), spread .unbounded items = (leavesOf items).map .item
  | [] => rfl
  | x :: xs => by
    rw [spread, leavesOf, List.map_append, spreadOne_unbounded x, spread_unbounded xs]
end

theorem Fragment.segments_ne_nil {f : Fragment} (h : f.isEmpty = false) (delimiters : List String) :
    f.segments delimiters ≠ [] := by
  cases f with
  | empty => cases h
  | text s => exact Tree.cut_ne_nil delimiters s
  | atom s => exact List.cons_ne_nil s []

namespace PathSpec

variable {a b spec : PathSpec}

theorem segments_of_isEmpty (h : spec.isEmpty = true) (delimiters : List String) :
    spec.segments delimiters = [] := if_pos h

theorem segments_of_not_isEmpty (h : spec.isEmpty = false) (delimiters : List String) :
    spec.segments delimiters = (Nest.leaves spec).flatMap (Fragment.segments delimiters) :=
  if_neg (by simp [h])

theorem segments_eq_nil_iff (delimiters : List String) (spec : PathSpec) :
    spec.segments delimiters = [] ↔ spec.isEmpty = true := by
  refine ⟨fun h => ?_, fun h => segments_of_isEmpty h delimiters⟩
  by_contra hspec
  rw [Bool.not_eq_true] at hspec
  rw [segments_of_not_isEmpty hspec, List.flatMap_eq_nil_iff] at h
  obtain ⟨f, hf, hne⟩ := List.all_eq_false.1 hspec
  exact Fragment.segments_ne_nil (Bool.eq_false_iff.2 hne) delimiters (h f hf)

theorem leaves_join (h : a ≠ .item .empty) (b : PathSpec) :
    Nest.leaves (a.join b) = Nest.leaves a ++ Nest.leaves b := by
  cases a with
  | list items =>
    rw [join, Nest.leaves_list, Nest.leaves_list, List.flatMap_append, List.flatMap_singleton]
  | item f =>
    have hjoin : join (.item f) b = .list [.item f, b] := by
      cases f with
      | empty => exact absurd rfl h
      | text | atom => rfl
    rw [hjoin, Nest.leaves_list, List.flatMap_cons, List.flatMap_singleton]

/-- Only an empty path has no segments, so that no other addresses the whole tree; and a path
continued by another has the segments of both, one after the other. -/
theorem segments_join (delimiters : List String) :
    (∀ spec : PathSpec, spec.segments delimiters = [] ↔ spec.isEmpty = true) ∧
    ∀ a b : PathSpec, a.isEmpty = false → b.isEmpty = false →
      (a.join b).segments delimiters = a.segments delimiters ++ b.segments delimiters := by
  refine ⟨segments_eq_nil_iff delimiters, fun a b ha hb => ?_⟩
  have hleaves : Nest.leaves (a.join b) = Nest.leaves a ++ Nest.leaves b := by
    apply leaves_join
    rintro rfl
    cases ha
  have hab : (a.join b).isEmpty = false := by
    rw [isEmpty] at ha ⊢
    rw [hleaves, List.all_append, ha, Bool.false_and]
  rw [segments_of_not_isEmpty hab, segments_of_not_isEmpty ha, segments_of_not_isEmpty hb, hleaves,
    List.flatMap_append]

/-- An empty text beside other fragments is a segment, an empty one that stands alone is none, and
neither is a list of such. -/
theorem segments_join_nested :
    let a : PathSpec := .list [.list [text "", .list [text "x.y"]], empty]
    let b : PathSpec := .list [atom "u.v", .list [text ""]]
    let c : PathSpec := .list [.list [], text ""]
    a.isEmpty = false ∧ b.isEmpty = false ∧ a.segments ["."] = ["", "x", "y"] ∧
      (a.join b).segments ["."] = ["", "x", "y", "u.v", ""] ∧ c.segments ["."] = [] := by
  intro a b c
  have ha : a.segments ["."] = ["", "x", "y"] := rfl
  have hb : b.segments ["."] = ["u.v", ""] := rfl
  obtain ⟨hempty, hjoin⟩ := segments_join ["."]
  refine ⟨rfl, rfl, ha, ?_, (hempty c).2 rfl⟩
  rw [hjoin a b rfl rfl, ha, hb]
  rfl

end PathSpec
end NestedData
