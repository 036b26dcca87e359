import NestedData.Number.Basic
import NestedData.Proofs.Number.Spacing
import Mathlib.Algebra.Order.Ring.Int
import Mathlib.Order.Compare
/-!
Integers as binary numbers. Up to nine quadrillion and some more an integer is its own nearest
binary number, and a greater one stays at least as great. So a binary number of less than nine
quadrillion equals an integer exactly when it is that integer.
-/

namespace NestedData.Binary64

theorem roundHalfEven_mem (num den : ℕ) :
    roundHalfEven num den = num / den ∨ roundHalfEven num den = num / den + 1 := by
  unfold roundHalfEven
  dsimp only
  split
  · exact Or.inl rfl
  · split
    · exact Or.inr rfl
    · omega

theorem roundHalfEven_of_dvd {num den : ℕ} (hden : 0 < den) (h : den ∣ num) :
    roundHalfEven num den = num / den := by
  unfold roundHalfEven
  rw [Nat.mod_eq_zero_of_dvd h]
  exact if_pos (by omega)

theorem unitsAt_spacing {s q : ℕ} (hl : implicitBit ≤ q) (hu : q ≤ 2 * implicitBit) :
    unitsAt (s * implicitBit + q) = q * 2 ^ s := by
  rcases Nat.lt_or_ge q (2 * implicitBit) with h | h
  · have hm : s * implicitBit + q = (s + 1) * implicitBit + (q - implicitBit) := by
      rw [Nat.add_mul]
      omega
    obtain ⟨hs, hk⟩ := at_normal s (f := q - implicitBit) (by omega)
    unfold unitsAt
    rw [hm, hs, hk, Nat.add_sub_cancel' hl]
  · have hm : s * implicitBit + q = (s + 1 + 1) * implicitBit + 0 := by
      rw [Nat.add_mul, Nat.add_mul]
      omega
    obtain ⟨hs, hk⟩ := at_normal (s + 1) (f := 0) (by rw [implicitBit_eq]; omega)
    have hq : q = 2 * implicitBit := by omega
    unfold unitsAt
    rw [hm, hs, hk, hq, pow_succ]
    ring

def spacings (u : ℕ) : ℕ := roundHalfEven u (2 ^ spacing u)

theorem two_pow_le_and_lt {u : ℕ} (hu : 2 ^ 52 ≤ u) :
    2 ^ 52 * 2 ^ spacing u ≤ u ∧ u < 2 ^ 53 * 2 ^ spacing u := by
  have hne : u ≠ 0 := by
    rintro rfl
    norm_num at hu
  have hlog : 52 ≤ u.log2 := (Nat.le_log2 hne).2 hu
  rw [← pow_add, ← pow_add]
  unfold spacing
  constructor
  · rw [show 52 + (u.log2 - 52) = u.log2 by omega]
    exact Nat.log2_self_le hne
  · rw [show 53 + (u.log2 - 52) = u.log2 + 1 by omega]
    exact Nat.lt_log2_self

theorem spacings_bounds {u : ℕ} (hu : 2 ^ 52 ≤ u) :
    implicitBit ≤ spacings u ∧ spacings u ≤ 2 * implicitBit := by
  obtain ⟨hl, hh⟩ := two_pow_le_and_lt hu
  have hpos := Nat.two_pow_pos (spacing u)
  have hdivl : 2 ^ 52 ≤ u / 2 ^ spacing u := (Nat.le_div_iff_mul_le hpos).2 hl
  have hdivh : u / 2 ^ spacing u < 2 ^ 53 := (Nat.div_lt_iff_lt_mul hpos).2 hh
  rw [implicitBit_eq]
  unfold spacings
  rcases roundHalfEven_mem u (2 ^ spacing u) with h | h <;> omega

theorem units_le_of_two_pow {u e : ℕ} (h : 2 ^ e ≤ u) (he : 52 ≤ e) :
    2 ^ e ≤ spacings u * 2 ^ spacing u := by
  have hu : 2 ^ 52 ≤ u := (Nat.pow_le_pow_right two_pos he).trans h
  have hne : u ≠ 0 := (lt_of_lt_of_le (Nat.two_pow_pos 52) hu).ne'
  have hlog : e ≤ u.log2 := (Nat.le_log2 hne).2 h
  calc 2 ^ e ≤ 2 ^ (52 + spacing u) :=
        Nat.pow_le_pow_right two_pos (by unfold spacing; omega)
    _ = implicitBit * 2 ^ spacing u := by rw [pow_add, implicitBit_eq]; rfl
    _ ≤ spacings u * 2 ^ spacing u := Nat.mul_le_mul_right _ (spacings_bounds hu).1

theorem spacings_mul_of_le {n k : ℕ} (hn : 0 < n) (hle : n ≤ 2 ^ 53) :
    spacings (n * 2 ^ k) * 2 ^ spacing (n * 2 ^ k) = n * 2 ^ k := by
  have hdvd : 2 ^ spacing (n * 2 ^ k) ∣ n * 2 ^ k := by
    rcases Nat.lt_or_ge n (2 ^ 53) with h | h
    · have hlog : (n * 2 ^ k).log2 < 53 + k := by
        rw [Nat.log2_lt (by positivity), pow_add]
        exact Nat.mul_lt_mul_of_pos_right h (Nat.two_pow_pos k)
      exact dvd_mul_of_dvd_right (pow_dvd_pow 2 (by unfold spacing; omega)) n
    · have hn : n = 2 ^ 53 := le_antisymm hle h
      rw [hn, ← pow_add]
      refine pow_dvd_pow 2 ?_
      unfold spacing
      rw [Nat.log2_two_pow]
      omega
  unfold spacings
  rw [roundHalfEven_of_dvd (Nat.two_pow_pos _) hdvd, Nat.div_mul_cancel hdvd]

def roundedMagnitude (n : ℕ) : ℕ :=
  spacing (n * unitsPerOne) * implicitBit + spacings (n * unitsPerOne)

theorem ofInt_eq (n : ℤ) :
    (ofInt n).negative = decide (n < 0) ∧
      (roundedMagnitude n.natAbs < 0x7FF0000000000000 →
        (ofInt n).magnitude = roundedMagnitude n.natAbs) ∧
      (¬ roundedMagnitude n.natAbs < 0x7FF0000000000000 →
        (ofInt n).magnitude = 0x7FEFFFFFFFFFFFFF) := by
  have hnearest : nearestMagnitude? n.natAbs 1 =
      if h : roundedMagnitude n.natAbs < 0x7FF0000000000000 then some ⟨_, h⟩ else none := by
    unfold nearestMagnitude? roundedMagnitude spacings
    simp only [Nat.div_one, Nat.one_mul, Nat.pow_eq]
  unfold ofInt ofRatio?
  rw [hnearest]
  split
  · rename_i h
    exact ⟨rfl, fun _ => rfl, fun h' => absurd h h'⟩
  · rename_i h
    exact ⟨rfl, fun h' => absurd h' h, fun _ => rfl⟩

theorem unitExponent_eq : unitExponent = 1074 := by rw [unitExponent]

theorem unitsPerOne_eq : unitsPerOne = 2 ^ unitExponent := rfl

theorem units_ofInt_of_le {n : ℤ} (h : n.natAbs ≤ 2 ^ 53) :
    (ofInt n).units = n.natAbs * unitsPerOne := by
  obtain ⟨-, hin, -⟩ := ofInt_eq n
  rcases Nat.eq_zero_or_pos n.natAbs with h0 | hpos
  · have hm : roundedMagnitude n.natAbs = 0 := by
      rw [h0, roundedMagnitude, Nat.zero_mul]
      rfl
    rw [units_eq, hin (by rw [hm]; decide), hm, h0, Nat.zero_mul]
    rfl
  · have hspacing : spacing (n.natAbs * unitsPerOne) ≤ 1075 := by
      have hlog : (n.natAbs * unitsPerOne).log2 < 54 + unitExponent := by
        rw [Nat.log2_lt (Nat.mul_pos hpos unitsPerOne_pos).ne', pow_add, unitsPerOne_eq]
        exact Nat.mul_lt_mul_of_pos_right (by omega) (Nat.two_pow_pos unitExponent)
      unfold spacing
      rw [unitExponent_eq] at hlog
      omega
    have hu : 2 ^ 52 ≤ n.natAbs * unitsPerOne := by
      rw [unitsPerOne_eq]
      exact (Nat.pow_le_pow_right two_pos (by rw [unitExponent_eq]; omega)).trans
        (Nat.le_mul_of_pos_left _ hpos)
    obtain ⟨hl, hh⟩ := spacings_bounds hu
    have hm : roundedMagnitude n.natAbs < 0x7FF0000000000000 := by
      unfold roundedMagnitude
      rw [implicitBit_eq] at *
      omega
    rw [units_eq, hin hm, roundedMagnitude, unitsAt_spacing hl hh, unitsPerOne_eq]
    exact spacings_mul_of_le hpos h

theorem le_units_ofInt {n : ℤ} (h : 2 ^ 53 ≤ n.natAbs) :
    2 ^ 53 * unitsPerOne ≤ (ofInt n).units := by
  obtain ⟨-, hin, hout⟩ := ofInt_eq n
  have he := unitExponent_eq
  have hpow : 2 ^ (53 + unitExponent) ≤ n.natAbs * unitsPerOne := by
    rw [unitsPerOne_eq, pow_add]
    exact Nat.mul_le_mul_right _ h
  rw [unitsPerOne_eq, ← pow_add, units_eq]
  by_cases hm : roundedMagnitude n.natAbs < 0x7FF0000000000000
  · have hu : 2 ^ 52 ≤ n.natAbs * unitsPerOne :=
      (Nat.pow_le_pow_right two_pos (by omega)).trans hpow
    obtain ⟨hl, hh⟩ := spacings_bounds hu
    rw [hin hm, roundedMagnitude, unitsAt_spacing hl hh]
    exact units_le_of_two_pow hpow (by omega)
  · obtain ⟨s, hs⟩ : ∃ s, s = 2045 := ⟨_, rfl⟩
    have hlargest : 0x7FEFFFFFFFFFFFFF = (s + 1) * implicitBit + (implicitBit - 1) := by
      rw [implicitBit_eq, hs]
    obtain ⟨hg, hk⟩ := at_normal s (f := implicitBit - 1) (by rw [implicitBit_eq]; omega)
    rw [hout hm, hlargest, unitsAt, hg, hk]
    calc 2 ^ (53 + unitExponent) ≤ 2 ^ s := Nat.pow_le_pow_right two_pos (by omega)
      _ ≤ (implicitBit + (implicitBit - 1)) * 2 ^ s :=
        Nat.le_mul_of_pos_left _ (by rw [implicitBit_eq]; omega)

theorem natAbs_signedUnits (x : Binary64) : x.signedUnits.natAbs = x.units := by
  unfold signedUnits
  split <;> omega

theorem signedUnits_ofInt {n : ℤ} (h : n.natAbs ≤ 2 ^ 53) :
    (ofInt n).signedUnits = n * unitsPerOne := by
  unfold signedUnits
  rw [units_ofInt_of_le h, (ofInt_eq n).1]
  push_cast
  by_cases hn : n < 0
  · rw [if_pos (decide_eq_true hn), abs_of_neg hn]
    ring
  · rw [if_neg (by simpa using hn), abs_of_nonneg (not_lt.1 hn)]

theorem order_eq_iff {x y : Binary64} : x.order y = .eq ↔ x.signedUnits = y.signedUnits :=
  compare_eq_iff_eq

/-- A binary number below `2 ^ 53` equals an integer just when it is that integer. -/
theorem ofInt_order_eq_iff {x : Binary64} (hx : x.units < 2 ^ 53 * unitsPerOne) (n : ℤ) :
    (ofInt n).order x = .eq ↔ n * unitsPerOne = x.signedUnits := by
  rw [order_eq_iff]
  rcases Nat.le_total n.natAbs (2 ^ 53) with h | h
  · rw [signedUnits_ofInt h]
  · have hbig := le_units_ofInt h
    constructor
    · intro he
      have := congrArg Int.natAbs he
      rw [natAbs_signedUnits, natAbs_signedUnits] at this
      omega
    · intro he
      have := congrArg Int.natAbs he
      rw [natAbs_signedUnits, Int.natAbs_mul, Int.natAbs_natCast] at this
      have := Nat.mul_le_mul_right unitsPerOne h
      omega

end NestedData.Binary64
