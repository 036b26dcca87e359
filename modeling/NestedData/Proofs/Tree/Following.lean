import NestedData.Filter.Judgement
import NestedData.Proofs.Tree.Structure
/-!
Following a path in a value, field by field, and in the tree of the value, child by child. The two
lead to the same place unless a list on the way is asked for an item by a text that denotes an index
and is not the key of an item, such as an index after a plus or after zeros.
-/

namespace NestedData

theorem index?_indexKey (i : ℕ) : index? (Tree.indexKey i) = some i := by
  have hdigits := Number.digits_toDigits i
  have hall : (Nat.toDigits 10 i).all Char.isDigit = true := List.all_eq_true.2 hdigits
  have hne : (Nat.toDigits 10 i).isEmpty = false := List.isEmpty_eq_false_iff.2 Nat.toDigits_ne_nil
  have hvalue : (Nat.toDigits 10 i).foldl (fun n d => 10 * n + Number.digitValue d) 0 = i :=
    Nat.ofDigitChars_ten_toDigits
  unfold index? Tree.indexKey
  rw [Nat.toList_repr]
  split
  · rename_i rest h
    have hplus : '+' ∉ Nat.toDigits 10 i := hdigits.not_mem rfl
    rw [h] at hplus
    exact absurd List.mem_cons_self hplus
  · dsimp only
    rw [hne, hall, hvalue]
    rfl

namespace Value

variable {r v : Value} {field : String} {path : List String}

def follow? : List String → Value → Option Value
  | [], r => some r
  | field :: path, r => (r.field? field).bind (follow? path)

/-- A list on the way is asked for an item by a text that denotes an index and is not its key. -/
inductive Misindexed : List String → Value → Prop where
  | here {field : String} {path : List String} {items : List Value} {i : ℕ}
      (denotes : index? field = some i) (other : field ≠ Tree.indexKey i) :
      Misindexed (field :: path) (.array items)
  | further {field : String} {path : List String} {r v : Value} (step : r.field? field = some v)
      (rest : Misindexed path v) : Misindexed (field :: path) r

theorem Everywhere.of_field? {P : Value → Prop} (h : r.Everywhere P)
    (hf : r.field? field = some v) : v.Everywhere P := by
  cases r with
  | object ms => exact (Everywhere.object_iff.1 h).2 _ (Dict.mem_of_get? hf)
  | array xs =>
    obtain ⟨i, -, hi⟩ := Option.bind_eq_some_iff.1 hf
    exact (Everywhere.array_iff.1 h).2 _ (List.mem_of_getElem? hi)
  | null | bool | number | string => cases hf

theorem Misindexed.append (h : Misindexed path r) (rest : List String) :
    Misindexed (path ++ rest) r := by
  induction h with
  | here denotes other => exact .here denotes other
  | further step _ ih => exact .further step ih

theorem Everywhere.of_follow? {P : Value → Prop} (h : r.Everywhere P)
    (hf : r.follow? path = some v) : v.Everywhere P := by
  induction path generalizing r with
  | nil =>
    cases hf
    exact h
  | cons field path ih =>
    obtain ⟨u, hu, hv⟩ := Option.bind_eq_some_iff.1 hf
    exact ih (h.of_field? hu) hv

theorem WellFormed.of_field? (h : r.WellFormed) (hf : r.field? field = some v) : v.WellFormed :=
  wellFormed_iff_everywhere.2 ((wellFormed_iff_everywhere.1 h).of_field? hf)

theorem Everywhere.not_misindexed (h : r.Everywhere fun u => u.items? = none) :
    ¬ r.Misindexed path := by
  intro hm
  induction hm with
  | here => cases h.here
  | further step _ ih => exact ih (h.of_field? step)

end Value

namespace Tree

open Value (Misindexed)

variable {r : Value} {field : String} {path : List String}

/-- A field is the child of its name, unless it is an item under another text than its key. -/
theorem child?_ofValue (hr : r.WellFormed) (h : ¬ Misindexed [field] r) :
    (ofValue [] r).child? field = (r.field? field).map (ofValue []) := by
  cases r with
  | object ms => exact child?_ofValue_object (Value.wellFormed_object.1 hr).1 field
  | array xs =>
    show _ = ((index? field).bind (xs[·]?)).map (ofValue [])
    by_cases hkey : ∃ i, field = indexKey i
    · obtain ⟨i, rfl⟩ := hkey
      rw [index?_indexKey, child?_ofValue_array]
      rfl
    · rw [not_exists] at hkey
      have hnone : index? field = none :=
        Option.eq_none_iff_forall_ne_some.2 fun i hi => h (.here hi (hkey i))
      rw [child?_ofValue_array_of_ne hkey, hnone]
      rfl
  | null | bool | number | string => rw [ofValue]; rfl

theorem child?_ofValue_of_misindexed (h : Misindexed [field] r) :
    (ofValue [] r).child? field = none := by
  cases h with
  | @here _ _ items i denotes other =>
    apply child?_ofValue_array_of_ne
    rintro j rfl
    rw [index?_indexKey, Option.some.injEq] at denotes
    exact other (congrArg indexKey denotes)
  | further _ rest => cases rest

theorem find?_ofValue (hr : r.WellFormed) (h : ¬ Misindexed path r) :
    (ofValue [] r).find? path = (r.follow? path).map (ofValue []) := by
  induction path generalizing r with
  | nil => rfl
  | cons field path ih =>
    have hhere : ¬ Misindexed [field] r := fun hm => h (hm.append path)
    rw [find?_cons, child?_ofValue hr hhere, Value.follow?]
    cases hf : r.field? field with
    | none => rfl
    | some v =>
      apply ih (hr.of_field? hf)
      intro hm
      exact h (.further hf hm)

theorem find?_ofValue_of_misindexed (hr : r.WellFormed) (h : Misindexed path r) :
    (ofValue [] r).find? path = none := by
  induction h with
  | @here field path items i denotes other =>
    have hm : Misindexed [field] (.array items) := .here denotes other
    rw [find?_cons, child?_ofValue_of_misindexed hm]
    rfl
  | @further field path r v step _ ih =>
    rw [find?_cons]
    by_cases hm : Misindexed [field] r
    · rw [child?_ofValue_of_misindexed hm]
      rfl
    · rw [child?_ofValue hr hm, step]
      exact ih (hr.of_field? step)

end Tree
end NestedData
