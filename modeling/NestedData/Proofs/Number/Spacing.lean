import NestedData.Number.Shortest
import Mathlib.Order.Monotone.Basic
import Mathlib.Tactic.Positivity
import Mathlib.Tactic.Ring
import Mathlib.Algebra.Order.Field.Basic
import Mathlib.Algebra.Order.Field.Rat
/-!
How binary numbers lie on the line. Greater magnitudes have more units, and the decimals that read
back as a number end where those of the next number begin. The shared end belongs to only one of the
two, since significands of neighbours are not both even, so no decimal reads back as two magnitudes.
-/

namespace NestedData.Binary64

def significandAt (m : ℕ) : ℕ := if m < implicitBit then m else m % implicitBit + implicitBit

def shiftAt (m : ℕ) : ℕ := m / implicitBit - 1

def unitsAt (m : ℕ) : ℕ := significandAt m * 2 ^ shiftAt m

/-- Where the decimals of the magnitude `m` begin, in quarters of a unit. -/
def edge (m : ℕ) : ℕ :=
  4 * unitsAt m -
    if significandAt m = implicitBit ∧ 0 < shiftAt m then 2 ^ shiftAt m else 2 * 2 ^ shiftAt m

theorem implicitBit_eq : implicitBit = 4503599627370496 := rfl

theorem unitsPerOne_pos : 0 < unitsPerOne := Nat.two_pow_pos unitExponent

theorem significandAt_mod_two (m : ℕ) : significandAt m % 2 = m % 2 := by
  unfold significandAt
  rw [implicitBit_eq]
  split <;> omega

theorem at_subnormal {m : ℕ} (h : m < implicitBit) : significandAt m = m ∧ shiftAt m = 0 := by
  unfold significandAt shiftAt
  rw [if_pos h, Nat.div_eq_of_lt h]
  exact ⟨rfl, rfl⟩

theorem at_normal (s : ℕ) {f : ℕ} (h : f < implicitBit) :
    significandAt ((s + 1) * implicitBit + f) = implicitBit + f ∧
      shiftAt ((s + 1) * implicitBit + f) = s := by
  unfold significandAt shiftAt
  rw [implicitBit_eq] at *
  constructor
  · rw [if_neg (by omega)]
    omega
  · omega

theorem subnormal_or_normal (m : ℕ) :
    m < implicitBit ∨ ∃ s f, f < implicitBit ∧ m = (s + 1) * implicitBit + f := by
  rw [implicitBit_eq]
  by_cases h : m < 4503599627370496
  · exact Or.inl h
  · exact Or.inr ⟨m / 4503599627370496 - 1, m % 4503599627370496, by omega, by omega⟩

theorem edge_succ (m : ℕ) : edge (m + 1) = 4 * unitsAt m + 2 * 2 ^ shiftAt m := by
  rcases subnormal_or_normal m with h | ⟨s, f, hf, rfl⟩
  · obtain ⟨hs, hk⟩ := at_subnormal h
    have hnext : significandAt (m + 1) = m + 1 ∧ shiftAt (m + 1) = 0 := by
      rcases Nat.lt_or_ge (m + 1) implicitBit with h' | h'
      · exact at_subnormal h'
      · have hm : m + 1 = (0 + 1) * implicitBit + 0 := by omega
        rw [hm]
        have := at_normal 0 (f := 0) (by rw [implicitBit_eq]; omega)
        omega
    simp only [edge, unitsAt, hs, hk, hnext.1, hnext.2]
    simp
    omega
  · obtain ⟨hs, hk⟩ := at_normal s hf
    rcases Nat.lt_or_ge (f + 1) implicitBit with h' | h'
    · obtain ⟨hs', hk'⟩ := at_normal s h'
      rw [Nat.add_assoc]
      simp only [edge, unitsAt, hs, hk, hs', hk']
      rw [if_neg (by omega)]
      apply Nat.sub_eq_of_eq_add
      ring
    · have hm : (s + 1) * implicitBit + f + 1 = (s + 1 + 1) * implicitBit + 0 := by
        rw [Nat.add_mul (s + 1)]
        omega
      obtain ⟨hs', hk'⟩ := at_normal (s + 1) (f := 0) (by rw [implicitBit_eq]; omega)
      rw [hm]
      simp only [edge, unitsAt, hs, hk, hs', hk']
      rw [if_pos ⟨by omega, by omega⟩]
      have hfe : f = implicitBit - 1 := by omega
      have hb : 1 ≤ implicitBit := by rw [implicitBit_eq]; omega
      obtain ⟨b, hb⟩ := Nat.exists_eq_add_of_le hb
      rw [hfe, hb]
      apply Nat.sub_eq_of_eq_add
      rw [Nat.add_sub_cancel_left, pow_succ]
      ring

theorem edge_le (m : ℕ) : edge m ≤ 4 * unitsAt m := Nat.sub_le _ _

theorem edge_lt_succ (m : ℕ) : 4 * unitsAt m < edge (m + 1) := by
  rw [edge_succ]
  have := Nat.two_pow_pos (shiftAt m)
  omega

theorem edge_strictMono : StrictMono edge :=
  strictMono_nat_of_lt_succ fun m => (edge_le m).trans_lt (edge_lt_succ m)

theorem unitsAt_strictMono : StrictMono unitsAt :=
  strictMono_nat_of_lt_succ fun m => by
    have h := (edge_lt_succ m).trans_le (edge_le (m + 1))
    omega

theorem units_eq (x : Binary64) : x.units = unitsAt x.magnitude := rfl

theorem units_injective {x y : Binary64} (h : x.units = y.units) : x.magnitude = y.magnitude :=
  unitsAt_strictMono.injective h

theorem span_low (x : Binary64) : x.span.low = edge x.magnitude := rfl

theorem span_high (x : Binary64) : x.span.high = edge (x.magnitude + 1) := (edge_succ _).symm

theorem span_closed (x : Binary64) : x.span.closed = true ↔ x.magnitude % 2 = 0 := by
  rw [← significandAt_mod_two]
  exact decide_eq_true_iff

/-- The number `v` lies in the span, on its ends only if it is closed. -/
def Span.Reads (s : Span) (v : ℚ) : Prop :=
  s.low ≤ v * s.scale ∧ v * s.scale ≤ s.high ∧
    (s.closed = false → s.low < v * s.scale ∧ v * s.scale < s.high)

theorem Span.holds_iff_reads (s : Span) (num : ℕ) {den : ℕ} (hden : 0 < den) :
    s.holds num den = true ↔ s.Reads (num / den) := by
  have hd : (0 : ℚ) < den := by exact_mod_cast hden
  have hle (a : ℕ) : (a : ℚ) ≤ num / den * s.scale ↔ a * den ≤ num * s.scale := by
    rw [div_mul_eq_mul_div, le_div_iff₀ hd]
    exact_mod_cast Iff.rfl
  have hge (a : ℕ) : num / den * s.scale ≤ (a : ℚ) ↔ num * s.scale ≤ a * den := by
    rw [div_mul_eq_mul_div, div_le_iff₀ hd]
    exact_mod_cast Iff.rfl
  unfold Span.holds Span.Reads
  rw [← not_le, ← not_le, hle, hge, hge, hle, not_le, not_le]
  cases s.closed with
  | true => simp
  | false =>
    simp only [Bool.false_eq_true, if_false, Bool.and_eq_true, decide_eq_true_eq, forall_const]
    exact ⟨fun h => ⟨h.1.le, h.2.le, h⟩, fun h => h.2.2⟩

theorem magnitude_not_lt_of_reads {x y : Binary64} {v : ℚ} (hx : x.span.Reads v)
    (hy : y.span.Reads v) : ¬ x.magnitude < y.magnitude := by
  intro hlt
  obtain ⟨-, hxh, hxo⟩ := hx
  obtain ⟨hyl, -, hyo⟩ := hy
  have hscale : x.span.scale = y.span.scale := rfl
  rw [span_high, hscale] at hxh hxo
  rw [span_low] at hyl hyo
  have hedge : edge y.magnitude ≤ edge (x.magnitude + 1) := by exact_mod_cast hyl.trans hxh
  have hmag : y.magnitude = x.magnitude + 1 :=
    Nat.le_antisymm (edge_strictMono.le_iff_le.1 hedge) hlt
  rw [hmag] at hyl hyo
  -- The two spans share `v`, their common end, so both are closed and both magnitudes even.
  have hv : v * y.span.scale = edge (x.magnitude + 1) := le_antisymm hxh hyl
  have hxc : x.span.closed = true := by
    by_contra hc
    exact absurd (hxo (by simpa using hc)).2 (by rw [hv]; exact lt_irrefl _)
  have hyc : y.span.closed = true := by
    by_contra hc
    exact absurd (hyo (by simpa using hc)).1 (by rw [hv]; exact lt_irrefl _)
  rw [span_closed] at hxc hyc
  omega

/-- No decimal reads back as two magnitudes. -/
theorem magnitude_eq_of_reads {x y : Binary64} {v : ℚ} (hx : x.span.Reads v)
    (hy : y.span.Reads v) : x.magnitude = y.magnitude := by
  have hxy := magnitude_not_lt_of_reads hx hy
  have hyx := magnitude_not_lt_of_reads hy hx
  omega

end NestedData.Binary64
