import NestedData.Proofs.Filter.Negation
import NestedData.Proofs.Tree.Following
import NestedData.Regex.Dialect
import NestedData.View.Basic
/-!
Filtering a collection that a container holds. The records of the container are those of the
collection, each as its tree reads. Filters find no difference unless a record holds an empty list,
which reads as an empty object, or an object with the keys of a list, which reads as a list.
-/

namespace NestedData

/-- The value that a container with the default configuration reads as, when it is made of `c`. -/
def Value.held (c : Value) : Value := ({} : View).toValue (.ofValue ({} : Config).delimiters c)

namespace Filter

open NestedData.Tree (ofValue)
open Value (Everywhere)

variable {c r : Value}

def Undotted (c : Value) : Prop :=
  c.Everywhere fun u => ∀ e ∈ u.members, '.' ∉ e.1.toList

instance : DecidablePred Undotted := fun c =>
  inferInstanceAs (Decidable (c.Everywhere _))

theorem held_of_undotted (h : Undotted c) : c.held = (ofValue [] c).toValue := by
  have hwhole : c.Everywhere fun u => ∀ e ∈ u.members, Tree.Whole ['.'] e.1 := by
    apply h.mono
    intro u hu e he x hx
    rw [List.mem_singleton.1 hx]
    exact hu e he
  exact congrArg Tree.toValue (Tree.ofValue_of_whole hwhole)

theorem records_of_tree (h : c.WellFormed) :
    (ofValue [] c).toValue.records = c.records.map fun r => (ofValue [] r).toValue := by
  cases c with
  | array items =>
    by_cases hitems : items = []
    · subst hitems
      rw [ofValue, Tree.ofItems]
      rfl
    · rw [Tree.toValue_ofValue_array [] hitems]
      rfl
  | object ms =>
    rw [Tree.ofValue_nil_of_distinct (Value.wellFormed_object.1 h).1, Tree.toValue]
    split
    · rw [Tree.childValues_eq_map]
      simp [Value.records, Dict.values]
    · rw [Tree.childMembers_eq_map]
      simp [Value.records, Dict.values]
  | null | bool | number | string =>
    rw [ofValue]
    rfl

theorem wellFormed_of_mem_records (h : c.WellFormed) (hr : r ∈ c.records) : r.WellFormed := by
  cases c with
  | array items => exact Value.wellFormed_array.1 h r hr
  | object ms =>
    obtain ⟨e, he, rfl⟩ := List.mem_map.1 hr
    exact (Value.wellFormed_object.1 h).2 e he
  | null | bool | number | string => exact absurd hr List.not_mem_nil

/-- A collection and the container made of it have the same records just when no record holds an
empty list or an object with the keys of a list. -/
theorem held_records_iff (hw : c.WellFormed) (hk : Undotted c) :
    c.held.records = c.records ↔ ∀ r ∈ c.records, r.Everywhere Value.Unambiguous := by
  rw [held_of_undotted hk, records_of_tree hw]
  apply map_eq_self_iff.trans
  apply forall₂_congr
  intro r hr
  exact Tree.toValue_ofValue_iff (wellFormed_of_mem_records hw hr)

/-- All filters without a projection select and reject the same records of a collection, whether a
container holds it or not, just when no record holds an empty list or an object with the keys of a
list, at any level. The filters of specifications are enough to tell. -/
theorem held_filtered_alike_iff (engine : Regex.Engine) (hw : c.WellFormed) (hk : Undotted c) :
    ((∀ f : Filter, f.options.projection = none →
      f.select c.held.records = f.select c.records ∧
        f.reject c.held.records = f.reject c.records) ↔
      ∀ r ∈ c.records, r.Everywhere Value.Unambiguous) ∧
    ((∀ spec f, ofSpec engine spec = .ok f → f.select c.held.records = f.select c.records) →
      ∀ r ∈ c.records, r.Everywhere Value.Unambiguous) := by
  rw [← held_records_iff hw hk]
  -- The filter that selects everything shows all the records there are.
  let all : Filter := ⟨.always, .all [], {}⟩
  have hspec : ofSpec engine .null = .ok all := by
    rw [ofSpec, withOptions]
    rfl
  have hselects (rs : List Value) : all.select rs = .ok rs := by
    rw [select_eq_filter rfl]
    exact congrArg Except.ok (List.filter_eq_self.2 fun _ _ => rfl)
  have htells (h : all.select c.held.records = all.select c.records) :
      c.held.records = c.records := by
    rw [hselects, hselects] at h
    exact Except.ok.inj h
  refine ⟨⟨fun h => htells (h all rfl).1, ?_⟩, fun h => htells (h .null all hspec)⟩
  intro h f _
  rw [h]
  exact ⟨rfl, rfl⟩

/-- An object with the keys of a list, which the container holds as a list of the same records. -/
theorem held_filtered_alike_numbered :
    let r : Value := .object [("a", .array [.null]), ("b", .object [])]
    let c : Value := .object [("0", r), ("1", .null)]
    c.WellFormed ∧ Undotted c ∧ ∀ f : Filter, f.options.projection = none →
      f.select c.held.records = f.select c.records ∧
        f.reject c.held.records = f.reject c.records := by
  intro r c
  have hw : c.WellFormed := by decide
  have hk : Undotted c := by decide
  exact ⟨hw, hk, (held_filtered_alike_iff Regex.dialect hw hk).1.2 (by decide)⟩

/-- A filter that asks for an empty list selects a record that has one, but not from a container. -/
theorem held_not_filtered_alike :
    let c : Value := .array [.object [("a", .array [])]]
    c.WellFormed ∧ Undotted c ∧ ∃ f, ofSpec Regex.dialect (.object [("a", .array [])]) = .ok f ∧
      f.options.projection = none ∧ f.select c.records = .ok [.object [("a", .array [])]] ∧
      f.select c.held.records = .ok [] := by
  intro c
  have hheld : c.held.records = [.object [("a", .object [])]] := rfl
  rw [hheld]
  exact ⟨by decide, by decide, _, by cbv, by cbv, by cbv, by cbv⟩

end Filter
end NestedData
