import NestedData.Proofs.Number.Spacing
import Mathlib.Algebra.Order.Field.Power
import Mathlib.Tactic.Linarith
import Mathlib.Tactic.NormNum
import Mathlib.Tactic.Positivity
/-!
The shortest decimal reads back. On a grid finer than the span around a number one of the two grid
points next to it lies in the span, and the grid of seventeen digits is fine enough for every binary
number but zero. So the search for the shortest decimal ends with one that the number is read from.
-/

namespace NestedData.Binary64

def Decimal.value (d : Decimal) : ℚ := d.digits * 10 ^ d.exponent

theorem ten_zpow_toNat (e : ℤ) : (10 : ℚ) ^ e * 10 ^ (-e).toNat = 10 ^ e.toNat := by
  rw [← zpow_natCast, ← zpow_natCast, ← zpow_add₀ (by norm_num)]
  congr 1
  omega

theorem digits_div_ten_pow (n : ℕ) (e : ℤ) :
    ((n * 10 ^ e.toNat : ℕ) : ℚ) / (10 ^ (-e).toNat : ℕ) = n * 10 ^ e := by
  push_cast
  rw [← ten_zpow_toNat e, ← mul_assoc, mul_div_assoc, div_self (by positivity), mul_one]

/-- What the search on a grid finds reads back. -/
theorem Span.reads_of_onGrid? {s : Span} {e : ℤ} {d : Decimal} (h : s.onGrid? e = some d) :
    s.Reads d.value := by
  have hpos : 0 < 10 ^ (-e).toNat := by positivity
  have hreads (n : ℕ) (hn : s.holds (n * 10 ^ e.toNat) (10 ^ (-e).toNat) = true) :
      s.Reads (Decimal.value ⟨n, e⟩) := by
    rw [Span.holds_iff_reads s _ hpos, digits_div_ten_pow] at hn
    exact hn
  unfold Span.onGrid? at h
  dsimp only at h
  split at h
  · rename_i hl
    cases h
    rw [Bool.and_eq_true] at hl
    exact hreads _ hl.1
  · split at h
    · rename_i hu
      cases h
      exact hreads _ hu
    · cases h

theorem Span.onGrid?_isSome {s : Span} {e : ℤ}
    (hlow : s.scale * 10 ^ e.toNat + 2 * (s.low * 10 ^ (-e).toNat) <
      2 * (s.value * 10 ^ (-e).toNat))
    (hhigh : s.scale * 10 ^ e.toNat + 2 * (s.value * 10 ^ (-e).toNat) <
      2 * (s.high * 10 ^ (-e).toNat)) (hscale : 0 < s.scale) : (s.onGrid? e).isSome := by
  have hden : 0 < s.scale * 10 ^ e.toNat := by positivity
  have hmod := Nat.mod_lt (s.value * 10 ^ (-e).toNat) hden
  have hdiv := Nat.div_add_mod (s.value * 10 ^ (-e).toNat) (s.scale * 10 ^ e.toNat)
  have hcomm (n : ℕ) : n * 10 ^ e.toNat * s.scale = s.scale * 10 ^ e.toNat * n := by ring
  unfold Span.onGrid?
  simp only [Nat.pow_eq]
  generalize s.value * 10 ^ (-e).toNat / (s.scale * 10 ^ e.toNat) = d at hdiv ⊢
  generalize s.value * 10 ^ (-e).toNat % (s.scale * 10 ^ e.toNat) = r at hmod hdiv ⊢
  have hnext : s.scale * 10 ^ e.toNat * (d + 1) =
      s.scale * 10 ^ e.toNat * d + s.scale * 10 ^ e.toNat := Nat.mul_succ _ _
  by_cases hr : 2 * r ≤ s.scale * 10 ^ e.toNat
  · have hl : s.holds (d * 10 ^ e.toNat) (10 ^ (-e).toNat) = true := by
      unfold Span.holds
      rw [hcomm]
      split <;> simp only [Bool.and_eq_true, decide_eq_true_eq] <;> omega
    rw [hl]
    by_cases hu : s.holds ((d + 1) * 10 ^ e.toNat) (10 ^ (-e).toNat) = true
    · rw [hu]
      split <;> rfl
    · rw [Bool.not_eq_true] at hu
      rw [hu]
      rfl
  · have hu : s.holds ((d + 1) * 10 ^ e.toNat) (10 ^ (-e).toNat) = true := by
      unfold Span.holds
      rw [hcomm, hnext]
      split <;> simp only [Bool.and_eq_true, decide_eq_true_eq] <;> omega
    rw [hu]
    split <;> rfl

theorem Span.reads_firstHit {s : Span} {es : List ℤ} (h : ∃ e ∈ es, (s.onGrid? e).isSome) :
    s.Reads (s.firstHit es).value := by
  induction es with
  | nil =>
    obtain ⟨e, he, -⟩ := h
    cases he
  | cons e es ih =>
    rw [Span.firstHit]
    cases hg : s.onGrid? e with
    | some d => exact Span.reads_of_onGrid? hg
    | none =>
      obtain ⟨f, hf, hs⟩ := h
      rcases List.mem_cons.1 hf with rfl | hf
      · rw [hg] at hs
        cases hs
      · exact ih ⟨f, hf, hs⟩

theorem ten_pow_length_toDigits_le {n : ℕ} (hn : 0 < n) :
    10 ^ ((Nat.toDigits 10 n).length - 1) ≤ n := by
  have hpos : 0 < (Nat.toDigits 10 n).length := Nat.length_toDigits_pos
  rcases Nat.eq_zero_or_pos ((Nat.toDigits 10 n).length - 1) with h | h
  · rw [h]
    exact hn
  · by_contra hlt
    have := (Nat.length_toDigits_le_iff (n := n) (b := 10) (by decide) h).2 (by omega)
    omega

theorem lt_ten_pow_length_toDigits (n : ℕ) : n < 10 ^ (Nat.toDigits 10 n).length :=
  (Nat.length_toDigits_le_iff (by decide) Nat.length_toDigits_pos).1 le_rfl

theorem ten_zpow_leadingExponent_le {num den : ℕ} (hnum : 0 < num) (hden : 0 < den) :
    (den : ℚ) * 10 ^ leadingExponent num den ≤ num := by
  unfold leadingExponent
  split
  · rename_i h
    have hpos := Nat.length_toDigits_pos (b := 10) (n := num / den)
    have hq := ten_pow_length_toDigits_le (Nat.div_pos h hden)
    have he : ((Nat.toDigits 10 (num / den)).length : ℤ) - 1 =
        ((Nat.toDigits 10 (num / den)).length - 1 : ℕ) := by omega
    rw [he, zpow_natCast]
    exact_mod_cast (Nat.mul_le_mul_left den hq).trans (Nat.mul_div_le num den)
  · have hpos := Nat.length_toDigits_pos (b := 10) (n := den / num)
    dsimp only
    split
    · rename_i h
      rw [zpow_neg, zpow_natCast, ← div_eq_mul_inv, div_le_iff₀ (by positivity)]
      exact_mod_cast h.ge
    · have hq := lt_ten_pow_length_toDigits (den / num)
      rw [Nat.div_lt_iff_lt_mul hnum] at hq
      rw [zpow_neg, zpow_natCast, ← div_eq_mul_inv, div_le_iff₀ (by positivity), mul_comm]
      exact_mod_cast hq.le

theorem value_lt_gap {m : ℕ} (hm : 0 < m) :
    edge m < 4 * unitsAt m ∧ 4 * unitsAt m < 2 * (4 * unitsAt m - edge m) * 10 ^ 16 ∧
      4 * unitsAt m - edge m ≤ edge (m + 1) - 4 * unitsAt m := by
  have hgap : ∃ below, edge m = 4 * unitsAt m - below ∧ 0 < below ∧ below ≤ 4 * unitsAt m ∧
      4 * unitsAt m < 2 * below * 10 ^ 16 ∧ below ≤ 2 * 2 ^ shiftAt m := by
    have hk := Nat.two_pow_pos (shiftAt m)
    have hsig : 0 < significandAt m ∧ significandAt m < 2 * implicitBit := by
      unfold significandAt
      rw [implicitBit_eq]
      split <;> omega
    rw [implicitBit_eq] at hsig
    unfold edge unitsAt
    generalize 2 ^ shiftAt m = k at hk
    generalize significandAt m = g at hsig
    have hgk : k ≤ g * k := Nat.le_mul_of_pos_left k hsig.1
    split
    · rename_i h
      rw [implicitBit_eq] at h
      refine ⟨k, rfl, hk, by omega, ?_, by omega⟩
      rw [h.1]
      omega
    · refine ⟨2 * k, rfl, by omega, by omega, ?_, le_rfl⟩
      have : g * k ≤ 9007199254740992 * k := Nat.mul_le_mul_right k (by omega)
      omega
  obtain ⟨below, he, hb, hle, hlt, hstep⟩ := hgap
  have hs := edge_succ m
  rw [he]
  have hsub : 4 * unitsAt m - (4 * unitsAt m - below) = below := by omega
  rw [hsub]
  omega

theorem shortest_reads {x : Binary64} (hx : x.magnitude ≠ 0) :
    x.span.Reads x.shortest.value := by
  obtain ⟨hedge, hgap, hup⟩ := value_lt_gap (Nat.pos_of_ne_zero hx)
  have hvalue : x.span.value = 4 * unitsAt x.magnitude := rfl
  have hhigh := edge_lt_succ x.magnitude
  have hscale : 0 < x.span.scale := Nat.mul_pos (by decide) unitsPerOne_pos
  have hpos : 0 < x.span.value := by omega
  have hlead := ten_zpow_leadingExponent_le hpos hscale
  refine Span.reads_firstHit
    ⟨leadingExponent x.span.value x.span.scale - 16, List.mem_map.2 ⟨16, by simp, rfl⟩, ?_⟩
  generalize leadingExponent x.span.value x.span.scale = lead at hlead
  have hfine : (x.span.scale : ℚ) * 10 ^ (lead - 16) <
      2 * ((x.span.value : ℚ) - (x.span.low : ℚ)) := by
    have hgap' : (x.span.value : ℚ) < 2 * ((x.span.value : ℚ) - (x.span.low : ℚ)) * 10 ^ 16 := by
      rw [span_low, hvalue, ← Nat.cast_sub hedge.le]
      exact_mod_cast hgap
    rw [zpow_sub₀ (by norm_num), ← mul_div_assoc, div_lt_iff₀ (by positivity)]
    exact lt_of_le_of_lt hlead hgap'
  have hdown : (0 : ℚ) < 10 ^ (-(lead - 16)).toNat := by positivity
  have hgrid : (x.span.scale : ℚ) * 10 ^ (lead - 16).toNat <
      2 * ((x.span.value : ℚ) - (x.span.low : ℚ)) * 10 ^ (-(lead - 16)).toNat := by
    rw [← ten_zpow_toNat, ← mul_assoc]
    exact mul_lt_mul_of_pos_right hfine hdown
  have hside : (x.span.value : ℚ) - (x.span.low : ℚ) ≤ (x.span.high : ℚ) - x.span.value := by
    rw [span_low, span_high, hvalue, ← Nat.cast_sub hedge.le, ← Nat.cast_sub hhigh.le]
    exact_mod_cast hup
  refine Span.onGrid?_isSome ?_ ?_ hscale
  · have : (x.span.scale : ℚ) * 10 ^ (lead - 16).toNat +
        2 * (x.span.low * 10 ^ (-(lead - 16)).toNat) <
        2 * (x.span.value * 10 ^ (-(lead - 16)).toNat) := by linarith
    exact_mod_cast this
  · have hside' := mul_le_mul_of_nonneg_right hside hdown.le
    have : (x.span.scale : ℚ) * 10 ^ (lead - 16).toNat +
        2 * (x.span.value * 10 ^ (-(lead - 16)).toNat) <
        2 * (x.span.high * 10 ^ (-(lead - 16)).toNat) := by linarith
    exact_mod_cast this

end NestedData.Binary64
