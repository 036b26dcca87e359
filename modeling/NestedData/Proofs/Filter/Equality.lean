import NestedData.Proofs.Filter.Membership
import NestedData.Proofs.Number.Comparing
import NestedData.Proofs.Tree.Following
/-!
Equality of values, as the equality operator has it. It is reflexive and symmetric, and it goes on
from one value to the next through an equal one unless the two outer ones hold, at the end of one
path, different integers that are rounded to one binary number. There are none among integers up to
`2 ^ 53`; beyond, a binary number may equal two integers. The choice between equal literals is told
by the same integers, and in a list by the prints of the literals as well.
-/

namespace NestedData

namespace Value

variable {eq : Number → Number → Bool} {a b c u v x : Value} {field : String} {path : List String}

theorem alike_field? (h : alike eq u v = true) (hx : u.field? field = some x) :
    ∃ y, v.field? field = some y ∧ alike eq x y = true := by
  cases u with
  | array xs =>
    cases v with
    | array ys =>
      rw [alike_array, List.forall₂_iff_get] at h
      obtain ⟨i, hfield, hi⟩ := Option.bind_eq_some_iff.1 hx
      obtain ⟨hlt, rfl⟩ := List.getElem?_eq_some_iff.1 hi
      have hlt' : i < ys.length := h.1 ▸ hlt
      refine ⟨ys[i], ?_, h.2 i hlt hlt'⟩
      exact Option.bind_eq_some_iff.2 ⟨i, hfield, List.getElem?_eq_getElem hlt'⟩
    | _ => simp [alike] at h
  | object ms =>
    cases v with
    | object ns => exact (alike_object.1 h).2 _ (Dict.mem_of_get? hx)
    | _ => simp [alike] at h
  | null | bool | number | string => cases hx

theorem alike_follow? (h : alike eq u v = true) (hx : u.follow? path = some x) :
    ∃ y, v.follow? path = some y ∧ alike eq x y = true := by
  induction path generalizing u v with
  | nil =>
    cases hx
    exact ⟨v, rfl, h⟩
  | cons field path ih =>
    obtain ⟨w, hw, hx⟩ := Option.bind_eq_some_iff.1 hx
    obtain ⟨w', hw', hww'⟩ := alike_field? h hw
    obtain ⟨y, hy, hxy⟩ := ih hww' hx
    exact ⟨y, Option.bind_eq_some_iff.2 ⟨w', hw', hy⟩, hxy⟩

/-- At the end of some path the two hold different integers that are rounded to one number. -/
def Blurred (a c : Value) : Prop :=
  ∃ path m n, a.follow? path = some (.number m) ∧ c.follow? path = some (.number n) ∧ m.Blurred n

theorem Blurred.of_field? {y : Value} (h : x.Blurred y) (hx : u.field? field = some x)
    (hy : v.field? field = some y) : u.Blurred v := by
  obtain ⟨path, m, n, hm, hn, hmn⟩ := h
  refine ⟨field :: path, m, n, ?_, ?_, hmn⟩
  · exact Option.bind_eq_some_iff.2 ⟨x, hx, hm⟩
  · exact Option.bind_eq_some_iff.2 ⟨y, hy, hn⟩

theorem not_blurred_of_equal (h : u.equal v = true) : ¬ u.Blurred v := by
  rintro ⟨path, m, n, hm, hn, hmn⟩
  obtain ⟨y, hy, hmy⟩ := alike_follow? h hm
  obtain rfl := Option.some.inj (hn.symm.trans hy)
  exact (Number.order_eq_iff_rounded.1 (of_decide_eq_true hmy)).2 hmn

theorem roundedAlike_of_equal (h : u.equal v = true) : alike Number.roundedEqual u v = true :=
  alike_mono (fun _ _ hab => (Number.order_eq_iff_rounded.1 (of_decide_eq_true hab)).1) h

theorem field?_indexKey {xs : List Value} {i : ℕ} (h : i < xs.length) :
    (array xs).field? (Tree.indexKey i) = some xs[i] := by
  rw [field?, index?_indexKey, Option.bind_some, List.getElem?_eq_getElem h]

/-- Values that are equal once rounded are equal or blurred. -/
theorem equal_of_roundedAlike (hu : u.WellFormed) (h : alike Number.roundedEqual u v = true)
    (hclear : ¬ u.Blurred v) : u.equal v = true := by
  refine alike_induct (motive := fun u v => u.WellFormed → ¬ u.Blurred v → u.equal v = true)
    ?null ?bool ?number ?string ?array ?object h hu hclear
  case null | bool | string => simp [equal, alike]
  case number =>
    intro m n hround _ hclear
    have hnot : ¬ m.Blurred n := fun hmn => hclear ⟨[], m, n, rfl, rfl, hmn⟩
    exact decide_eq_true (Number.order_eq_iff_rounded.2 ⟨hround, hnot⟩)
  case array =>
    intro xs ys hxs hu hclear
    rw [wellFormed_array] at hu
    rw [List.forall₂_iff_get] at hxs
    refine alike_array.2 (List.forall₂_iff_get.2 ⟨hxs.1, fun i hx hy => ?_⟩)
    refine (hxs.2 i hx hy).2 (hu _ (xs.get_mem _)) fun hxy => hclear ?_
    exact hxy.of_field? (field?_indexKey hx) (field?_indexKey hy)
  case object =>
    intro ms ns hlength hms hu hclear
    obtain ⟨hdistinct, hvalues⟩ := wellFormed_object.1 hu
    refine alike_object.2 ⟨hlength, fun e he => ?_⟩
    obtain ⟨y, hy, -, hey⟩ := hms e he
    refine ⟨y, hy, hey (hvalues e he) fun hxy => hclear ?_⟩
    exact hxy.of_field? (Dict.get?_of_mem hdistinct he) hy

theorem equal_refl (hv : v.WellFormed) : v.equal v = true :=
  alike_refl (fun n => decide_eq_true n.order_self) hv

theorem equal_comm (hu : u.WellFormed) (hv : v.WellFormed) : u.equal v = v.equal u := by
  have hsymm (m n : Number) (h : decide (m.order n = .eq) = true) :
      decide (n.order m = .eq) = true :=
    decide_eq_true (Number.order_eq_comm.1 (of_decide_eq_true h))
  exact Bool.eq_iff_iff.2 ⟨alike_symm hsymm hu hv, alike_symm hsymm hv hu⟩

/-- From one value to the next through an equal one. -/
theorem equal_iff_not_blurred (ha : a.WellFormed) (hab : a.equal b = true)
    (hbc : b.equal c = true) : a.equal c = true ↔ ¬ a.Blurred c := by
  have hac : alike Number.roundedEqual a c = true := by
    refine alike_comp (fun l m n hlm hmn => ?_) (roundedAlike_of_equal hab)
      (roundedAlike_of_equal hbc)
    exact Number.roundedEqual_trans hlm hmn
  exact ⟨not_blurred_of_equal, equal_of_roundedAlike ha hac⟩

/-- No integer in the value is beyond `2 ^ 53`. -/
def Small (v : Value) : Prop := v.Everywhere fun u => ∀ n, u = .number n → n.Small

theorem Small.not_blurred (ha : a.Small) (hc : c.Small) : ¬ a.Blurred c := by
  rintro ⟨path, m, n, hm, hn, hmn⟩
  have hsmall := (ha.of_follow? hm).here m rfl
  exact hsmall.not_blurred ((hc.of_follow? hn).here n rfl) hmn

end Value

namespace Judgement

open Value (equal_refl equal_comm equal_iff_not_blurred)

variable {a b c : Value}

theorem compare_eq_of_field? {r : Value} {field : String} (hr : r.field? field = some a)
    (literal : Value) : compare field .eq literal r = some (a.equal literal) := by
  rw [compare, onField, hr, Option.bind_some]
  rfl

/-- Equality of well-formed values is reflexive and symmetric. Through an equal value it goes on
just to what is not blurred against the first, and small values are not. So it matters which of two
equal literals a field is compared with just for a field that equals one of them and is blurred
against the other. Which of two separable literals stands in a list matters just for a field that
has the print of no other literal there and is found by one of the two only, and so not for two of
one print. -/
theorem equality_through_equals (ha : a.WellFormed) (hb : b.WellFormed) (hc : c.WellFormed) :
    a.equal a = true ∧ a.equal b = b.equal a ∧
    (a.equal b = true → b.equal c = true → (a.equal c = true ↔ ¬ a.Blurred c)) ∧
    (a.Small → c.Small → ¬ a.Blurred c) ∧
    (b.equal c = true → ∀ field r, r.field? field = some a →
      (compare field .eq b r = compare field .eq c r ↔
        ¬ (a.equal b = true ∧ a.Blurred c) ∧ ¬ (a.equal c = true ∧ a.Blurred b))) ∧
    ∀ field r before after, r.field? field = some a →
      (∀ v ∈ a :: b :: c :: (before ++ after), v.WellFormed ∧ v.Separable) →
      (oneOf field (before ++ b :: after) r = oneOf field (before ++ c :: after) r ↔
        (∃ v ∈ before ++ after, a.printAlike v = true) ∨
          (FoundBy a b (before ++ after) ↔ FoundBy a c (before ++ after))) ∧
      (b.printAlike c = true →
        oneOf field (before ++ b :: after) r = oneOf field (before ++ c :: after) r) := by
  refine ⟨equal_refl ha, equal_comm ha hb, equal_iff_not_blurred ha, Value.Small.not_blurred, ?_,
    fun field r before after hr hsep =>
      ⟨oneOf_exchange_iff hr hsep, fun hbc => oneOf_exchange_of_printAlike hr hbc hsep⟩⟩
  intro hbc field r hr
  have hcb : c.equal b = true := (equal_comm hb hc).symm.trans hbc
  rw [compare_eq_of_field? hr, compare_eq_of_field? hr, Option.some.injEq]
  constructor
  · intro h
    refine ⟨fun ⟨hab, hblurred⟩ => ?_, fun ⟨hac, hblurred⟩ => ?_⟩
    · exact (equal_iff_not_blurred ha hab hbc).1 (h ▸ hab) hblurred
    · exact (equal_iff_not_blurred ha hac hcb).1 (h.trans hac) hblurred
  · rintro ⟨hb', hc'⟩
    refine Bool.eq_iff_iff.2 ⟨fun hab => ?_, fun hac => ?_⟩
    · exact (equal_iff_not_blurred ha hab hbc).2 fun h => hb' ⟨hab, h⟩
    · exact (equal_iff_not_blurred ha hac hcb).2 fun h => hc' ⟨hac, h⟩

/-- Inside objects and lists, a binary number between two integers that are rounded to it. Beside
another literal neither the binary number nor the second integer is found. -/
theorem equality_through_equals_nested :
    let a : Value := .object [("k", .array [.number (.integer 9007199254740993)]), ("l", .null)]
    let b : Value := .object [("l", .null),
      ("k", .array [.number (.binary ⟨false, 0x4340000000000000, by decide⟩)])]
    let c : Value := .object [("k", .array [.number (.integer 9007199254740992)]), ("l", .null)]
    let r : Value := .object [("x", a)]
    a.WellFormed ∧ b.WellFormed ∧ c.WellFormed ∧ a.equal b = true ∧ b.equal a = true ∧
      b.equal c = true ∧ a.Blurred c ∧ a.equal c = false ∧
      compare "x" .eq b r ≠ compare "x" .eq c r ∧ oneOf "x" [b] r ≠ oneOf "x" [c] r ∧
      oneOf "x" [.null, b] r = oneOf "x" [.null, c] r := by
  intro a b c r
  have ha : a.WellFormed := by decide
  have hb : b.WellFormed := by decide
  have hc : c.WellFormed := by decide
  have hab : a.equal b = true := by decide +kernel
  have hbc : b.equal c = true := by decide +kernel
  have hblurred : a.Blurred c := by
    refine ⟨["k", "0"], .integer 9007199254740993, .integer 9007199254740992, rfl, rfl, ?_⟩
    exact ⟨by decide, by decide +kernel⟩
  obtain ⟨-, hcomm, hthrough, -, hliterals, hlists⟩ := equality_through_equals ha hb hc
  have hac : a.equal c = false := Bool.eq_false_iff.2 fun hac => (hthrough hab hbc).1 hac hblurred
  have hsep : ∀ v ∈ [a, b, c, .null], v.WellFormed ∧ v.Separable := by
    simp only [List.forall_mem_cons]
    refine ⟨⟨ha, ?_⟩, ⟨hb, ?_⟩, ⟨hc, ?_⟩, ⟨trivial, trivial⟩, by simp⟩ <;>
      simp [a, b, c, Value.Separable, Value.Delimited, Value.DelimitedItems,
        Value.DelimitedMembers]
  have hprints : a.printAlike b = false ∧ a.printAlike c = false := by decide +kernel
  have hother : Value.null.printAlike b = false := by decide
  refine ⟨ha, hb, hc, hab, hcomm.symm.trans hab, hbc, hblurred, hac, fun h => ?_, fun h => ?_, ?_⟩
  · exact ((hliterals hbc "x" r rfl).1 h).1 ⟨hab, hblurred⟩
  · have hb' : FoundBy a b [] := Or.inr ⟨hab, fun v hv => absurd hv List.not_mem_nil⟩
    have hsep' : ∀ v ∈ [a, b, c], v.WellFormed ∧ v.Separable := fun v hv =>
      hsep v (List.mem_append_left [Value.null] hv)
    have hfound := ((hlists "x" r [] [] rfl hsep').1.1 h).resolve_left (by simp)
    simpa [FoundBy, hprints.2, hac] using hfound.1 hb'
  · refine (hlists "x" r [.null] [] rfl hsep).1.2 (Or.inr ?_)
    simp [FoundBy, hprints.1, hprints.2, hac, hother]

/-- An integer that equals a binary number need not equal the integer that the number is. -/
theorem equality_not_transitive :
    let a : Value := .number (.integer 9007199254740993)
    let b : Value := .number (.binary ⟨false, 0x4340000000000000, by decide⟩)
    let c : Value := .number (.integer 9007199254740992)
    let r : Value := .object [("a", a), ("c", c)]
    a.equal b = true ∧ b.equal c = true ∧ a.equal c = false ∧
      compare "a" .eq b r = some true ∧ compare "c" .eq b r = some true ∧
      compare "a" .eq c r = some false := by
  decide +kernel

end Judgement
end NestedData
