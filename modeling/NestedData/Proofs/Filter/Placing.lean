import NestedData.Proofs.Filter.Expanded
import NestedData.Proofs.Tree.Paths
/-!
Placing entries in a document by the paths of their keys. A path is free in a document when nothing
stands at it, and on its way only documents that hold plain keys; placing at a path leaves free what
is free and apart from it.
-/

namespace NestedData.Filter

open NestedData.Tree (Apart apart_cons_iff not_apart_nil_left not_apart_nil_right)

variable {d inner : Document} {k : String} {v : Value} {p q rest : List String}

/-- Nothing stands at the path, and on its way only documents that hold plain keys. -/
inductive Free : List String → Document → Prop where
  | absent {k : String} {rest : List String} {d : Document} (h : Dict.get? k d = none) :
      Free (k :: rest) d
  | inside {k : String} {rest : List String} {d inner : Document}
      (h : Dict.get? k d = some (.object inner)) (hne : inner ≠ []) (ho : hasOperator inner = false)
      (hf : Free rest inner) : Free (k :: rest) d

theorem free_nil (hp : p ≠ []) : Free p [] := by
  obtain ⟨k, rest, rfl⟩ := List.exists_cons_of_ne_nil hp
  exact .absent rfl

theorem within_of_get? (h : Dict.get? k d = some (.object inner)) : within k d = inner := by
  unfold within
  rw [h]
  rfl

theorem within_of_absent (h : Dict.get? k d = none) : within k d = [] := by
  unfold within
  rw [h]
  rfl

theorem placeAt_of_absent (h : Dict.get? k d = none) (rest : List String) (v : Value) :
    placeAt (k :: rest) v d = d ++ placeAt (k :: rest) v [] := by
  cases rest with
  | nil => exact Dict.insert_of_get?_eq_none h v
  | cons l rest =>
    rw [placeAt_cons_cons, placeAt_cons_cons, within_of_absent h]
    exact Dict.insert_of_get?_eq_none h _

theorem placeAt_ne_nil (k : String) (rest : List String) (v : Value) (d : Document) :
    placeAt (k :: rest) v d ≠ [] := by
  have hinsert (w : Value) : Dict.insert k w d ≠ [] := by
    intro hn
    have hk : Dict.get? k (Dict.insert k w d) = some w := Dict.get?_insert_self k w d
    rw [hn] at hk
    cases hk
  cases rest with
  | nil => exact hinsert v
  | cons l rest => exact hinsert _

theorem get?_placeAt_of_ne {l : String} (h : l ≠ k) (rest : List String) (v : Value)
    (d : Document) : Dict.get? l (placeAt (k :: rest) v d) = Dict.get? l d := by
  cases rest with
  | nil => exact Dict.get?_insert_of_ne h v d
  | cons m rest => exact Dict.get?_insert_of_ne h _ d

def Passable (p : List String) : Prop := 1 < p.length → ∀ s ∈ p, isOperatorKey s = false

theorem Passable.tail (h : Passable (k :: p)) : Passable p := by
  intro hp s hs
  refine h ?_ s (List.mem_cons_of_mem k hs)
  rw [List.length_cons]
  omega

theorem Passable.plain {l : String} (h : Passable (k :: l :: p)) :
    isOperatorKey k = false ∧ isOperatorKey l = false := by
  have hp := h (by rw [List.length_cons, List.length_cons]; omega)
  exact ⟨hp k List.mem_cons_self, hp l (List.mem_cons_of_mem k List.mem_cons_self)⟩

theorem free_of_get?_eq {d e : Document} (h : Free (k :: rest) d)
    (hk : Dict.get? k e = Dict.get? k d) : Free (k :: rest) e := by
  cases h with
  | absent h => exact .absent (hk.trans h)
  | inside h hne ho hf => exact .inside (hk.trans h) hne ho hf

theorem Free.placeAt (hq : Free q d) (ha : Apart p q) (hp : Passable p) :
    Free q (placeAt p v d) := by
  induction p generalizing q d with
  | nil => exact absurd ha (not_apart_nil_left q)
  | cons k rest ih =>
    obtain ⟨l, tail, rfl⟩ := List.exists_cons_of_ne_nil ha.ne_nil
    by_cases hkl : l = k
    · subst hkl
      have ha' : Apart rest tail := (apart_cons_iff.1 ha).resolve_left (fun h => h rfl)
      cases rest with
      | nil => exact absurd ha' (not_apart_nil_left tail)
      | cons m rest =>
        rw [placeAt_cons_cons]
        -- Below the common step the rest of the path is free in what stands there, if anything.
        have hw : Free tail (within l d) ∧ hasOperator (within l d) = false := by
          cases hq with
          | absent h =>
            rw [within_of_absent h]
            exact ⟨free_nil ha'.ne_nil, rfl⟩
          | inside h hne ho hf =>
            rw [within_of_get? h]
            exact ⟨hf, ho⟩
        have hf : Free tail (Filter.placeAt (m :: rest) v (within l d)) := ih hw.1 ha' hp.tail
        refine .inside (Dict.get?_insert_self _ _ _) (placeAt_ne_nil _ _ _ _) ?_ hf
        rw [hasOperator_placeAt, hp.plain.2, hw.2]
        rfl
    · exact free_of_get?_eq hq (get?_placeAt_of_ne hkl rest v d)

end NestedData.Filter
