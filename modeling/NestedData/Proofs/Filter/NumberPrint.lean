import NestedData.Filter.Fingerprint
import NestedData.Proofs.Number.Comparing
import NestedData.Proofs.Number.DecimalText
/-!
The prints of numbers in fingerprints. Two numbers have the same print exactly when they are equal
and not an integer beside a binary number of nine quadrillion or more: of such a pair the two have
different prints even when they are equal.
-/

namespace NestedData.Number

open Binary64 (unitsPerOne unitsPerOne_pos order_eq_iff ofInt_order_eq_iff signedUnits_ofInt)
open Value (wholeLimit numberPrint)

/-- An integer and a binary number of nine quadrillion or more. -/
def printsApart : Number → Number → Bool
  | .integer _, .binary x => decide (wholeLimit * unitsPerOne ≤ x.units)
  | .binary x, .integer _ => decide (wholeLimit * unitsPerOne ≤ x.units)
  | _, _ => false

def printAlike (a b : Number) : Bool := a.order b = .eq && !a.printsApart b

theorem units_lt_of_lt_wholeLimit {n : ℕ} (h : n < wholeLimit * unitsPerOne) :
    n < 2 ^ 53 * unitsPerOne :=
  h.trans_le (Nat.mul_le_mul_right _ (by decide))

theorem units_eq_of_signedUnits {n : ℤ} {x : Binary64} (h : x.signedUnits = n * unitsPerOne) :
    x.units = n.natAbs * unitsPerOne := by
  rw [← Binary64.natAbs_signedUnits, h, Int.natAbs_mul, Int.natAbs_natCast]

theorem numberPrint_binary (x : Binary64) :
    (∃ n : ℤ, n.natAbs < wholeLimit ∧ x.signedUnits = n * unitsPerOne ∧
      numberPrint (.binary x) = integerText n) ∨
    ((∀ n : ℤ, x.signedUnits = n * unitsPerOne → wholeLimit ≤ n.natAbs) ∧ x.magnitude ≠ 0 ∧
      numberPrint (.binary x) = x.text) := by
  by_cases hw : ∃ k, k < wholeLimit ∧ x.units = k * unitsPerOne
  · obtain ⟨k, hk, hu⟩ := hw
    refine Or.inl ⟨if x.negative then -(k : ℤ) else k, by split <;> omega, ?_, ?_⟩
    · unfold Binary64.signedUnits
      rw [hu]
      split <;> push_cast <;> ring
    · have hwhole : x.whole? = some k := by
        unfold Binary64.whole?
        rw [hu, Nat.mul_mod_left, if_pos rfl, Nat.mul_div_cancel _ unitsPerOne_pos]
      rw [numberPrint, hwhole]
      exact if_pos hk
  · refine Or.inr ⟨fun n hn => ?_, ?_, ?_⟩
    · by_contra hlt
      exact hw ⟨n.natAbs, by omega, units_eq_of_signedUnits hn⟩
    · intro h0
      exact hw ⟨0, by decide, by rw [Binary64.units_eq, h0, Nat.zero_mul]; rfl⟩
    · rw [numberPrint]
      cases hx : x.whole? with
      | none => rfl
      | some k =>
        refine if_neg fun hk => hw ⟨k, hk, ?_⟩
        unfold Binary64.whole? at hx
        split at hx
        · rename_i hmod
          rw [← Option.some.inj hx, Nat.div_mul_cancel (Nat.dvd_of_mod_eq_zero hmod)]
        · cases hx

theorem numeric_of_mem_numberPrint {a : Number} {c : Char} (h : c ∈ numberPrint a) :
    numeric c = true := by
  cases a with
  | integer n => exact numeric_of_mem_integerText h
  | binary x =>
    rcases numberPrint_binary x with ⟨n, -, -, hp⟩ | ⟨-, -, hp⟩
    · exact numeric_of_mem_integerText (hp ▸ h)
    · exact numeric_of_mem_text (hp ▸ h)

theorem eq_of_signedUnits {x y : Binary64} (hx : x.magnitude ≠ 0)
    (h : x.signedUnits = y.signedUnits) : x = y := by
  have hunits : x.units = y.units := by
    rw [← Binary64.natAbs_signedUnits, h, Binary64.natAbs_signedUnits]
  have hpos : 0 < x.units := by
    rw [Binary64.units_eq]
    exact lt_of_le_of_lt (Nat.zero_le _) (Binary64.unitsAt_strictMono (Nat.pos_of_ne_zero hx))
  have hmag := Binary64.units_injective hunits
  have hneg : x.negative = y.negative := by
    unfold Binary64.signedUnits at h
    rw [← hunits] at h
    cases hxn : x.negative <;> cases hyn : y.negative <;> simp [hxn, hyn] at h ⊢ <;> omega
  obtain ⟨sx, mx, fx⟩ := x
  obtain ⟨sy, my, fy⟩ := y
  simp only at hmag hneg
  subst hmag hneg
  rfl

theorem numberPrint_integer_eq_iff (m : ℤ) (x : Binary64) :
    numberPrint (.integer m) = numberPrint (.binary x) ↔
      (Binary64.ofInt m).order x = .eq ∧ x.units < wholeLimit * unitsPerOne := by
  rcases numberPrint_binary x with ⟨n, hn, hx, hp⟩ | ⟨hlarge, hx, hp⟩
  · have hsmall : x.units < wholeLimit * unitsPerOne := by
      rw [units_eq_of_signedUnits hx]
      exact Nat.mul_lt_mul_of_pos_right hn unitsPerOne_pos
    rw [hp, ofInt_order_eq_iff (units_lt_of_lt_wholeLimit hsmall), hx, mul_unitsPerOne_inj]
    exact ⟨fun h => ⟨integerText_injective h, hsmall⟩, fun h => by rw [h.1]; rfl⟩
  · rw [hp]
    constructor
    · exact fun h => absurd h.symm (text_ne_integerText hx m)
    · rintro ⟨ho, hsmall⟩
      rw [ofInt_order_eq_iff (units_lt_of_lt_wholeLimit hsmall)] at ho
      have hm := hlarge m ho.symm
      rw [units_eq_of_signedUnits ho.symm] at hsmall
      exact absurd (Nat.mul_le_mul_right unitsPerOne hm) (not_le.2 hsmall)

theorem numberPrint_binary_eq_iff (x y : Binary64) :
    numberPrint (.binary x) = numberPrint (.binary y) ↔ x.order y = .eq := by
  rw [order_eq_iff]
  rcases numberPrint_binary x with ⟨m, hm, hx, hp⟩ | ⟨hlarge, hx, hp⟩ <;>
    rcases numberPrint_binary y with ⟨n, hn, hy, hq⟩ | ⟨hlarge', hy, hq⟩
  · rw [hp, hq, hx, hy, mul_unitsPerOne_inj]
    exact ⟨integerText_injective, fun h => by rw [h]⟩
  · rw [hp, hq]
    refine ⟨fun h => absurd h.symm (text_ne_integerText hy m), fun h => ?_⟩
    exact absurd (hlarge' m (h.symm.trans hx)) (not_le.2 hm)
  · rw [hp, hq]
    refine ⟨fun h => absurd h (text_ne_integerText hx n), fun h => ?_⟩
    exact absurd (hlarge n (h.trans hy)) (not_le.2 hn)
  · rw [hp, hq]
    exact ⟨fun h => by rw [text_injective hx hy h], fun h => by rw [eq_of_signedUnits hx h]⟩

/-- What prints tell of two numbers. -/
theorem numberPrint_eq_iff (a b : Number) :
    numberPrint a = numberPrint b ↔ a.printAlike b = true := by
  unfold printAlike
  rw [Bool.and_eq_true, decide_eq_true_eq]
  match a, b with
  | .integer m, .integer n =>
    change integerText m = integerText n ↔ compare m n = .eq ∧ _
    rw [compare_eq_iff_eq]
    exact ⟨fun h => ⟨integerText_injective h, rfl⟩, fun h => by rw [h.1]⟩
  | .integer m, .binary x =>
    rw [numberPrint_integer_eq_iff]
    simp [printsApart, order, toBinary64]
  | .binary x, .integer n =>
    rw [eq_comm, numberPrint_integer_eq_iff, order_eq_iff, eq_comm, ← order_eq_iff]
    simp [printsApart, order, toBinary64]
  | .binary x, .binary y =>
    rw [numberPrint_binary_eq_iff]
    simp [printsApart, order, toBinary64]

theorem order_eq_of_printAlike {a b c : Number} (hab : a.printAlike b = true)
    (hca : c.order a = .eq) : c.order b = .eq := by
  unfold printAlike at hab
  rw [Bool.and_eq_true, decide_eq_true_eq] at hab
  obtain ⟨hord, hnear⟩ := hab
  cases a with
  | integer m =>
    cases b with
    | integer n =>
      obtain rfl := (order_integer m n).1 hord
      exact hca
    | binary x =>
      cases c with
      | integer n =>
        obtain rfl := (order_integer n m).1 hca
        exact hord
      | binary y => exact order_eq_trans hca hord
  | binary x =>
    cases b with
    | integer m =>
      cases c with
      | integer n =>
        -- Below the limit rounding tells integers apart.
        have hsmall : x.units < 2 ^ 53 * unitsPerOne :=
          units_lt_of_lt_wholeLimit (by simpa [printsApart] using hnear)
        have hm := (ofInt_order_eq_iff hsmall m).1 (order_eq_iff.2 (order_eq_iff.1 hord).symm)
        have hn := (ofInt_order_eq_iff hsmall n).1 hca
        rw [order_integer]
        exact mul_unitsPerOne_inj.1 (hn.trans hm.symm)
      | binary y => exact order_eq_trans hca hord
    | binary y =>
      cases c with
      | integer n => exact order_eq_trans hca hord
      | binary z => exact order_eq_trans hca hord

end NestedData.Number
