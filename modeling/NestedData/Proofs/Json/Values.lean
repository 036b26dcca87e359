import NestedData.Json.Value
import Mathlib.Data.List.Forall2
import Mathlib.Data.List.Perm.Subperm
/-!
Induction on JSON values, and their equalities seen through the parts of arrays and objects. An
equality of values is as strong, and composes as well, as the equality of numbers it is made from.
-/

namespace NestedData

theorem Dict.keys_perm {α β : Type} {d : List (String × α)} {d' : List (String × β)}
    (hd : Distinct d) (hlength : d.length = d'.length) (hsub : keys d ⊆ keys d') :
    (keys d).Perm (keys d') :=
  (List.subperm_of_subset hd hsub).perm_of_length_le (by simp [keys, hlength])

namespace Value

@[elab_as_elim, induction_eliminator]
theorem induct {motive : Value → Prop} (null : motive .null) (bool : ∀ b, motive (.bool b))
    (number : ∀ n, motive (.number n)) (string : ∀ s, motive (.string s))
    (array : ∀ xs, (∀ x ∈ xs, motive x) → motive (.array xs))
    (object : ∀ ms, (∀ e ∈ ms, motive e.2) → motive (.object ms)) : ∀ v, motive v
  | .null => null
  | .bool b => bool b
  | .number n => number n
  | .string s => string s
  | .array xs => array xs fun x _ => induct null bool number string array object x
  | .object ms => object ms fun e _ => induct null bool number string array object e.2
termination_by v => sizeOf v
decreasing_by
  · rename_i hx
    have := List.sizeOf_lt_of_mem hx
    simp only [Value.array.sizeOf_spec]
    omega
  · rename_i he
    have := List.sizeOf_lt_of_mem he
    obtain ⟨k, x⟩ := e
    simp only [Prod.mk.sizeOf_spec] at this
    simp only [Value.object.sizeOf_spec]
    omega

theorem isObject_iff {v : Value} : v.isObject = true ↔ ∃ ms, v = .object ms := by
  constructor
  · intro h
    cases v with
    | object ms => exact ⟨ms, rfl⟩
    | null | bool | number | string | array => cases h
  · rintro ⟨ms, rfl⟩
    rfl

theorem members?_eq_none_iff {v : Value} : v.members? = none ↔ v.isObject = false := by
  cases v <;> simp [members?, isObject]

theorem wellFormed_array {xs : List Value} :
    (array xs).WellFormed ↔ ∀ x ∈ xs, x.WellFormed := by
  rw [WellFormed]
  induction xs with
  | nil => simp [WellFormedItems]
  | cons x xs ih => simp [WellFormedItems, ih]

theorem wellFormed_object {ms : List (String × Value)} :
    (object ms).WellFormed ↔ Dict.Distinct ms ∧ ∀ e ∈ ms, e.2.WellFormed := by
  have hmembers : WellFormedMembers ms ↔ ∀ e ∈ ms, e.2.WellFormed := by
    induction ms with
    | nil => simp [WellFormedMembers]
    | cons e ms ih => rw [WellFormedMembers, ih, List.forall_mem_cons]
  rw [WellFormed, hmembers]

/-- The property holds of the value and of all that it holds, at any level. -/
inductive Everywhere (P : Value → Prop) : Value → Prop where
  | scalar {v : Value} (items : v.items? = none) (members : v.members? = none) (here : P v) :
      Everywhere P v
  | array {xs : List Value} (here : P (.array xs)) (items : ∀ x ∈ xs, Everywhere P x) :
      Everywhere P (.array xs)
  | object {ms : List (String × Value)} (here : P (.object ms))
      (values : ∀ e ∈ ms, Everywhere P e.2) : Everywhere P (.object ms)

namespace Everywhere

variable {P Q : Value → Prop} {v : Value} {xs : List Value} {ms : List (String × Value)}

theorem here (h : Everywhere P v) : P v := by
  cases h with
  | scalar _ _ here | array here _ | object here _ => exact here

theorem scalar_iff (hitems : v.items? = none) (hmembers : v.members? = none) :
    Everywhere P v ↔ P v :=
  ⟨here, scalar hitems hmembers⟩

theorem array_iff : Everywhere P (.array xs) ↔ P (.array xs) ∧ ∀ x ∈ xs, Everywhere P x := by
  constructor
  · intro h
    cases h with
    | scalar items => cases items
    | array here items => exact ⟨here, items⟩
  · rintro ⟨here, items⟩
    exact .array here items

theorem object_iff :
    Everywhere P (.object ms) ↔ P (.object ms) ∧ ∀ e ∈ ms, Everywhere P e.2 := by
  constructor
  · intro h
    cases h with
    | scalar _ members => cases members
    | object here values => exact ⟨here, values⟩
  · rintro ⟨here, values⟩
    exact .object here values

theorem mono (h : Everywhere P v) (hPQ : ∀ u, P u → Q u) : Everywhere Q v := by
  induction h with
  | scalar items members here => exact .scalar items members (hPQ _ here)
  | array here _ ih => exact .array (hPQ _ here) ih
  | object here _ ih => exact .object (hPQ _ here) ih

mutual
def decideValue [DecidablePred P] : (v : Value) → Decidable (Everywhere P v)
  | .array xs =>
    have := decideItems xs
    decidable_of_iff _ array_iff.symm
  | .object ms =>
    have := decideMembers ms
    decidable_of_iff _ object_iff.symm
  | .null => decidable_of_iff _ (scalar_iff rfl rfl).symm
  | .bool _ => decidable_of_iff _ (scalar_iff rfl rfl).symm
  | .number _ => decidable_of_iff _ (scalar_iff rfl rfl).symm
  | .string _ => decidable_of_iff _ (scalar_iff rfl rfl).symm

def decideItems [DecidablePred P] : (xs : List Value) → Decidable (∀ x ∈ xs, Everywhere P x)
  | [] => .isTrue fun _ h => absurd h List.not_mem_nil
  | x :: rest =>
    have := decideValue x
    have := decideItems rest
    decidable_of_iff _ List.forall_mem_cons.symm

def decideMembers [DecidablePred P] :
    (ms : List (String × Value)) → Decidable (∀ e ∈ ms, Everywhere P e.2)
  | [] => .isTrue fun _ h => absurd h List.not_mem_nil
  | (k, x) :: rest =>
    have := decideValue x
    have := decideMembers rest
    decidable_of_iff _ (List.forall_mem_cons (a := (k, x))).symm
end

instance [DecidablePred P] : DecidablePred (Everywhere P) := decideValue

end Everywhere

theorem wellFormed_iff_everywhere {v : Value} :
    v.WellFormed ↔ v.Everywhere fun u => Dict.Distinct u.members := by
  induction v with
  | array xs ih =>
    rw [wellFormed_array, Everywhere.array_iff]
    exact (forall₂_congr ih).trans (and_iff_right List.nodup_nil).symm
  | object ms ih =>
    rw [wellFormed_object, Everywhere.object_iff]
    exact and_congr_right fun _ => forall₂_congr ih
  | null | bool | number | string => exact iff_of_true trivial (.scalar rfl rfl List.nodup_nil)

instance : DecidablePred WellFormed := fun _ => decidable_of_iff _ wellFormed_iff_everywhere.symm

variable {eq : Number → Number → Bool}

theorem alike_array {xs ys : List Value} : alike eq (.array xs) (.array ys) = true ↔
    List.Forall₂ (fun x y => alike eq x y = true) xs ys := by
  rw [alike]
  induction xs generalizing ys with
  | nil => cases ys <;> simp [alikeItems]
  | cons x xs ih => cases ys <;> simp [alikeItems, ih]

theorem alike_object {ms ns : List (String × Value)} : alike eq (.object ms) (.object ns) = true ↔
    ms.length = ns.length ∧
      ∀ e ∈ ms, ∃ y, Dict.get? e.1 ns = some y ∧ alike eq e.2 y = true := by
  have hmembers : alikeMembers eq ms ns = true ↔
      ∀ e ∈ ms, ∃ y, Dict.get? e.1 ns = some y ∧ alike eq e.2 y = true := by
    induction ms with
    | nil => simp [alikeMembers]
    | cons e ms ih =>
      rw [alikeMembers, Bool.and_eq_true, ih, List.forall_mem_cons]
      refine and_congr_left fun _ => ?_
      cases Dict.get? e.1 ns <;> simp
  rw [alike, Bool.and_eq_true, decide_eq_true_eq, hmembers]

@[elab_as_elim]
theorem alike_induct {motive : Value → Value → Prop} (null : motive .null .null)
    (bool : ∀ b, motive (.bool b) (.bool b))
    (number : ∀ m n, eq m n = true → motive (.number m) (.number n))
    (string : ∀ s, motive (.string s) (.string s))
    (array : ∀ xs ys, List.Forall₂ (fun x y => alike eq x y = true ∧ motive x y) xs ys →
      motive (.array xs) (.array ys))
    (object : ∀ ms ns, ms.length = ns.length →
      (∀ e ∈ ms, ∃ y, Dict.get? e.1 ns = some y ∧ alike eq e.2 y = true ∧ motive e.2 y) →
      motive (.object ms) (.object ns))
    {u v : Value} (h : alike eq u v = true) : motive u v := by
  induction u generalizing v with
  | null =>
    cases v with
    | null => exact null
    | _ => simp [alike] at h
  | bool b =>
    cases v with
    | bool c =>
      obtain rfl : b = c := of_decide_eq_true h
      exact bool b
    | _ => simp [alike] at h
  | number m =>
    cases v with
    | number n => exact number m n h
    | _ => simp [alike] at h
  | string s =>
    cases v with
    | string t =>
      obtain rfl : s = t := of_decide_eq_true h
      exact string s
    | _ => simp [alike] at h
  | array xs ih =>
    cases v with
    | array ys =>
      refine array xs ys (((List.forall₂_and_left _ _).2 ⟨ih, alike_array.1 h⟩).imp ?_)
      exact fun x y hxy => ⟨hxy.2, hxy.1 hxy.2⟩
    | _ => simp [alike] at h
  | object ms ih =>
    cases v with
    | object ns =>
      obtain ⟨hlength, hms⟩ := alike_object.1 h
      refine object ms ns hlength fun e he => ?_
      obtain ⟨y, hy, hey⟩ := hms e he
      exact ⟨y, hy, hey, ih e he hey⟩
    | _ => simp [alike] at h

theorem alike_refl (h : ∀ a, eq a a = true) {v : Value} (hv : v.WellFormed) :
    alike eq v v = true := by
  induction v with
  | null | bool | string => simp [alike]
  | number n => exact h n
  | array xs ih =>
    rw [wellFormed_array] at hv
    exact alike_array.2 (List.forall₂_same.2 fun x hx => ih x hx (hv x hx))
  | object ms ih =>
    obtain ⟨hdistinct, hms⟩ := wellFormed_object.1 hv
    refine alike_object.2 ⟨rfl, fun e he => ?_⟩
    exact ⟨e.2, Dict.get?_of_mem hdistinct he, ih e he (hms e he)⟩

/-- The first of two objects is found in the second, and as it has as many members, so is the second
in the first. -/
theorem alike_symm (h : ∀ a b, eq a b = true → eq b a = true) {u v : Value} (hu : u.WellFormed)
    (hv : v.WellFormed) (huv : alike eq u v = true) : alike eq v u = true := by
  refine alike_induct (motive := fun u v => u.WellFormed → v.WellFormed → alike eq v u = true)
    ?null ?bool ?number ?string ?array ?object huv hu hv
  case null | bool | string => simp [alike]
  case number => exact fun m n hmn _ _ => h m n hmn
  case array =>
    intro xs ys hxs hu hv
    rw [wellFormed_array] at hu hv
    rw [List.forall₂_iff_get] at hxs
    refine alike_array.2 (List.forall₂_iff_get.2 ⟨hxs.1.symm, fun i hy hx => ?_⟩)
    exact (hxs.2 i hx hy).2 (hu _ (xs.get_mem _)) (hv _ (ys.get_mem _))
  case object =>
    intro ms ns hlength hms hu hv
    rw [wellFormed_object] at hu hv
    have hsub : Dict.keys ms ⊆ Dict.keys ns := by
      intro k hk
      obtain ⟨e, he, rfl⟩ := List.mem_map.1 hk
      obtain ⟨y, hy, -⟩ := hms e he
      exact List.mem_map.2 ⟨_, Dict.mem_of_get? hy, rfl⟩
    have hperm : (Dict.keys ms).Perm (Dict.keys ns) := Dict.keys_perm hu.1 hlength hsub
    refine alike_object.2 ⟨hlength.symm, fun e he => ?_⟩
    obtain ⟨f, hf, hfe⟩ := List.mem_map.1 (hperm.mem_iff.2 (List.mem_map_of_mem he))
    obtain ⟨y, hy, -, hyf⟩ := hms f hf
    have hye : y = e.2 := by
      rw [hfe, Dict.get?_of_mem hv.1 he] at hy
      exact (Option.some.inj hy).symm
    subst hye
    exact ⟨f.2, hfe ▸ Dict.get?_of_mem hu.1 hf, hyf (hu.2 f hf) (hv.2 e he)⟩

theorem alike_mono {eq' : Number → Number → Bool} (h : ∀ a b, eq a b = true → eq' a b = true)
    {u v : Value} (huv : alike eq u v = true) : alike eq' u v = true := by
  refine alike_induct ?null ?bool ?number ?string ?array ?object huv
  case null | bool | string => simp [alike]
  case number => exact h
  case array => exact fun xs ys hxs => alike_array.2 (hxs.imp fun _ _ hxy => hxy.2)
  case object =>
    intro ms ns hlength hms
    refine alike_object.2 ⟨hlength, fun e he => ?_⟩
    obtain ⟨y, hy, -, hey⟩ := hms e he
    exact ⟨y, hy, hey⟩

theorem alike_comp {eq' eq'' : Number → Number → Bool}
    (h : ∀ a b c, eq a b = true → eq' b c = true → eq'' a c = true) {u v w : Value}
    (huv : alike eq u v = true) (hvw : alike eq' v w = true) : alike eq'' u w = true := by
  induction u generalizing v w with
  | null => cases v <;> cases w <;> simp_all [alike]
  | bool b => cases v <;> cases w <;> simp_all [alike]
  | number n =>
    cases v with
    | number m =>
      cases w with
      | number k => exact h n m k huv hvw
      | _ => simp [alike] at hvw
    | _ => simp [alike] at huv
  | string s => cases v <;> cases w <;> simp_all [alike]
  | array xs ih =>
    cases v with
    | array ys =>
      cases w with
      | array zs =>
        rw [alike_array] at huv hvw ⊢
        induction huv generalizing zs with
        | nil =>
          cases hvw
          exact .nil
        | cons hxy _ ihs =>
          cases hvw with
          | cons hyz hrest =>
            exact .cons (ih _ List.mem_cons_self hxy hyz)
              (ihs (fun x hx => ih x (List.mem_cons_of_mem _ hx)) _ hrest)
      | _ => simp [alike] at hvw
    | _ => simp [alike] at huv
  | object ms ih =>
    cases v with
    | object ns =>
      cases w with
      | object os =>
        rw [alike_object] at huv hvw ⊢
        refine ⟨huv.1.trans hvw.1, fun e he => ?_⟩
        obtain ⟨y, hy, hxy⟩ := huv.2 e he
        obtain ⟨z, hz, hyz⟩ := hvw.2 (e.1, y) (Dict.mem_of_get? hy)
        exact ⟨z, hz, ih e he hxy hyz⟩
      | _ => simp [alike] at hvw
    | _ => simp [alike] at huv

end Value
end NestedData
