import NestedData.Proofs.Tree.Normal
/-!
Trees with the structure of a value. An object whose keys hold no delimiter has a child for each of
its members, and a list a child for each of its items. The value comes back from such a tree unless
there is an empty list in it, or an object that has the keys of a list.
-/

namespace NestedData

theorem map_eq_self_iff {α : Type} {f : α → α} {l : List α} : l.map f = l ↔ ∀ a ∈ l, f a = a := by
  have hid : l.map f = l.map id ↔ ∀ a ∈ l, f a = a := List.map_inj_left
  rwa [List.map_id] at hid

/-- Neither an empty list nor an object with the keys of a list. -/
def Value.Unambiguous : Value → Prop
  | .array items => items ≠ []
  | .object members => members = [] ∨ Tree.countsFrom 0 (Dict.keys members) = false
  | _ => True

instance : DecidablePred Value.Unambiguous
  | .array items => inferInstanceAs (Decidable (items ≠ []))
  | .object members => inferInstanceAs (Decidable (members = [] ∨ _ = false))
  | .null | .bool _ | .number _ | .string _ => inferInstanceAs (Decidable True)

namespace Tree

variable {delimiters : List Char} {ds : List String} {v : Value} {xs : List Value}
  {ms : List (String × Value)} {key : String}

theorem atomic_leaf (hitems : v.items? = none) (hmembers : v.members? = none) :
    (leaf v).Atomic := by
  cases v with
  | array => cases hitems
  | object => cases hmembers
  | null | bool | number | string => exact trivial

theorem ofItems_congr {ds es : List String} (h : ∀ x ∈ xs, ofValue ds x = ofValue es x) (n : ℕ) :
    ofItems ds n xs = ofItems es n xs := by
  induction xs generalizing n with
  | nil => rw [ofItems, ofItems]
  | cons x xs ih =>
    rw [List.forall_mem_cons] at h
    rw [ofItems, ofItems, h.1, ih h.2]

theorem ofValue_nil_object (ms : List (String × Value)) :
    ofValue [] (.object ms) =
      .branch (Dict.ofEntries (ms.map fun e => (e.1, ofValue [] e.2))) := by
  have hwhole : ∀ e ∈ ms, Whole [] e.1 := fun e _ => whole_nil e.1
  exact ofValue_object hwhole

theorem ofValue_of_whole (h : v.Everywhere fun u => ∀ e ∈ u.members, Whole delimiters e.1) :
    ofValue (texts delimiters) v = ofValue [] v := by
  induction h with
  | scalar items members _ =>
    have hatomic := atomic_leaf items members
    rw [ofValue_of_atomic hatomic, ofValue_of_atomic hatomic]
  | array _ _ ih => rw [ofValue, ofValue, ofItems_congr ih]
  | @object ms here _ ih =>
    have hwhole : ∀ e ∈ ms, Whole delimiters e.1 := here
    have hsame : ∀ e ∈ ms, (e.1, ofValue (texts delimiters) e.2) = (e.1, ofValue [] e.2) :=
      fun e he => congrArg (Prod.mk e.1) (ih e he)
    rw [ofValue_object hwhole, ofValue_nil_object, List.map_congr_left hsame]

theorem ofValue_nil_of_distinct (h : Dict.Distinct ms) :
    ofValue [] (.object ms) = .branch (ms.map fun e => (e.1, ofValue [] e.2)) := by
  rw [ofValue_nil_object]
  exact congrArg branch (Dict.ofEntries_of_distinct (h.map _))

theorem child?_ofValue_object (h : Dict.Distinct ms) (key : String) :
    (ofValue [] (.object ms)).child? key = (Dict.get? key ms).map (ofValue []) := by
  rw [ofValue_nil_of_distinct h, child?_branch, Dict.get?_map]

theorem get?_ofItems (ds : List String) (n i : ℕ) (xs : List Value) :
    Dict.get? (indexKey (n + i)) (ofItems ds n xs) = xs[i]?.map (ofValue ds) := by
  induction xs generalizing n i with
  | nil => rw [ofItems]; rfl
  | cons x xs ih =>
    rw [ofItems, Dict.get?]
    cases i with
    | zero => rw [Nat.add_zero, if_pos rfl]; rfl
    | succ i =>
      have hne : indexKey n ≠ indexKey (n + (i + 1)) := by
        intro h
        have := indexKey_injective h
        omega
      rw [if_neg hne, Nat.add_comm i 1, ← Nat.add_assoc, ih, Nat.add_comm 1 i,
        List.getElem?_cons_succ]

theorem child?_ofValue_array (ds : List String) (xs : List Value) (i : ℕ) :
    (ofValue ds (.array xs)).child? (indexKey i) = xs[i]?.map (ofValue ds) := by
  have hget := get?_ofItems ds 0 i xs
  rw [Nat.zero_add] at hget
  rw [ofValue, child?_branch, hget]

theorem child?_ofValue_array_of_ne (h : ∀ i, key ≠ indexKey i) (ds : List String)
    (xs : List Value) : (ofValue ds (.array xs)).child? key = none := by
  rw [ofValue, child?_branch, Dict.get?_eq_none_iff]
  intro hkey
  obtain ⟨e, he, rfl⟩ := List.mem_map.1 hkey
  obtain ⟨i, -, x, -, rfl⟩ := mem_ofItems he
  exact h i rfl

theorem countsFrom_ofItems (ds : List String) (n : ℕ) (xs : List Value) :
    countsFrom n (Dict.keys (ofItems ds n xs)) = true := by
  induction xs generalizing n with
  | nil => rw [ofItems]; rfl
  | cons x xs ih =>
    rw [ofItems, Dict.keys, List.map_cons, countsFrom, Bool.and_eq_true, decide_eq_true_eq]
    exact ⟨rfl, ih (n + 1)⟩

theorem values_ofItems (ds : List String) (n : ℕ) (xs : List Value) :
    (ofItems ds n xs).map Prod.snd = xs.map (ofValue ds) := by
  induction xs generalizing n with
  | nil => rw [ofItems]; rfl
  | cons x xs ih => rw [ofItems, List.map_cons, ih, List.map_cons]

theorem toValue_ofValue_array (ds : List String) (h : xs ≠ []) :
    (ofValue ds (.array xs)).toValue = .array (xs.map fun x => (ofValue ds x).toValue) := by
  obtain ⟨x, rest, rfl⟩ := List.exists_cons_of_ne_nil h
  have hlist : isList (ofItems ds 0 (x :: rest)) = true := by
    rw [isList, countsFrom_ofItems, ofItems]
    rfl
  have hvalues := congrArg (List.map toValue) (values_ofItems ds 0 (x :: rest))
  rw [List.map_map, List.map_map] at hvalues
  rw [ofValue, toValue, if_pos hlist, childValues_eq_map]
  exact congrArg Value.array hvalues

theorem unambiguous_object :
    (Value.object ms).Unambiguous ↔ isList (ms.map fun e => (e.1, ofValue [] e.2)) = false := by
  rw [Value.Unambiguous, isList, Dict.keys_map, Bool.and_eq_false_iff]
  simp

theorem toValue_ofValue_object (hd : Dict.Distinct ms) (h : (Value.object ms).Unambiguous) :
    (ofValue [] (.object ms)).toValue =
      .object (ms.map fun e => (e.1, (ofValue [] e.2).toValue)) := by
  rw [ofValue_nil_of_distinct hd, toValue, if_neg (Bool.eq_false_iff.1 (unambiguous_object.1 h)),
    childMembers_eq_map, List.map_map]
  rfl

/-- A value comes back from its tree unless something in it shares its tree with something else. -/
theorem toValue_ofValue_iff (h : v.WellFormed) :
    (ofValue [] v).toValue = v ↔ v.Everywhere Value.Unambiguous := by
  induction v with
  | array xs ih =>
    rw [Value.wellFormed_array] at h
    rw [Value.Everywhere.array_iff]
    by_cases hxs : xs = []
    · subst hxs
      refine iff_of_false ?_ fun h => h.1 rfl
      rw [ofValue, ofItems]
      intro heq
      cases heq
    · have here : (Value.array xs).Unambiguous := hxs
      rw [toValue_ofValue_array [] hxs, Value.array.injEq, and_iff_right here]
      apply map_eq_self_iff.trans
      apply forall₂_congr
      intro x hx
      exact ih x hx (h x hx)
  | object ms ih =>
    rw [Value.wellFormed_object] at h
    rw [Value.Everywhere.object_iff]
    by_cases hms : (Value.object ms).Unambiguous
    · rw [toValue_ofValue_object h.1 hms, Value.object.injEq, and_iff_right hms]
      apply map_eq_self_iff.trans
      apply forall₂_congr
      intro e he
      rw [← ih e he (h.2 e he), Prod.mk.injEq]
      exact and_iff_right rfl
    · refine iff_of_false ?_ fun h => hms h.1
      -- The tree of the object is the tree of a list, and reads as one.
      rw [unambiguous_object, Bool.not_eq_false] at hms
      rw [ofValue_nil_of_distinct h.1, toValue, if_pos hms]
      intro heq
      cases heq
  | null | bool | number | string =>
    rw [ofValue, toValue]
    exact iff_of_true rfl (.scalar rfl rfl trivial)

end Tree
end NestedData
