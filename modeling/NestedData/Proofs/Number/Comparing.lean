import NestedData.Proofs.Number.Rounding
/-!
Comparing numbers of both kinds. The order of two numbers is turned round with them. Two equal
numbers are equal once rounded; the converse fails only for two different integers that are rounded
to one binary number, as there are beyond `2 ^ 53`. Such a binary number equals both.
-/

namespace NestedData

theorem Binary64.order_swap (x y : Binary64) : y.order x = (x.order y).swap :=
  Std.OrientedOrd.eq_swap

namespace Number

open Binary64 (unitsPerOne unitsPerOne_pos order_eq_iff signedUnits_ofInt)

variable {a b c : Number}

theorem mul_unitsPerOne_inj {m n : ℤ} : m * (unitsPerOne : ℤ) = n * unitsPerOne ↔ m = n :=
  mul_left_inj' (by exact_mod_cast unitsPerOne_pos.ne')

theorem order_integer (m n : ℤ) : order (.integer m) (.integer n) = .eq ↔ m = n :=
  compare_eq_iff_eq

theorem order_eq_trans {x y z : Binary64} (hzx : z.order x = .eq) (hxy : x.order y = .eq) :
    z.order y = .eq :=
  order_eq_iff.2 ((order_eq_iff.1 hzx).trans (order_eq_iff.1 hxy))

theorem order_swap (a b : Number) : b.order a = (a.order b).swap := by
  match a, b with
  | .integer m, .integer n => exact Std.OrientedOrd.eq_swap
  | .integer m, .binary y => exact Binary64.order_swap _ y
  | .binary x, .integer n => exact Binary64.order_swap x _
  | .binary x, .binary y => exact Binary64.order_swap x y

theorem order_self (a : Number) : a.order a = .eq := by
  cases a with
  | integer n => exact (order_integer n n).2 rfl
  | binary x => exact order_eq_iff.2 rfl

theorem order_eq_comm : a.order b = .eq ↔ b.order a = .eq := by
  rw [order_swap b a, Ordering.swap_eq_eq]

/-- Different integers that are rounded to one binary number. -/
def Blurred : Number → Number → Prop
  | .integer m, .integer n => m ≠ n ∧ (Binary64.ofInt m).order (Binary64.ofInt n) = .eq
  | _, _ => False

def roundedEqual (a b : Number) : Bool := a.toBinary64.order b.toBinary64 = .eq

theorem order_eq_iff_rounded : a.order b = .eq ↔ a.roundedEqual b = true ∧ ¬ a.Blurred b := by
  unfold roundedEqual
  rw [decide_eq_true_eq]
  match a, b with
  | .integer m, .integer n =>
    rw [order_integer]
    constructor
    · rintro rfl
      exact ⟨order_eq_iff.2 rfl, fun h => h.1 rfl⟩
    · rintro ⟨hround, hclear⟩
      by_contra hne
      exact hclear ⟨hne, hround⟩
  | .integer _, .binary _ | .binary _, .integer _ | .binary _, .binary _ =>
    exact (and_iff_left id).symm

theorem roundedEqual_trans (hab : a.roundedEqual b = true) (hbc : b.roundedEqual c = true) :
    a.roundedEqual c = true :=
  decide_eq_true (order_eq_trans (of_decide_eq_true hab) (of_decide_eq_true hbc))

/-- A binary number, or an integer of at most `2 ^ 53` by its absolute value. -/
def Small : Number → Prop
  | .integer n => n.natAbs ≤ 2 ^ 53
  | .binary _ => True

theorem Small.not_blurred (ha : a.Small) (hc : c.Small) : ¬ a.Blurred c := by
  match a, c with
  | .integer m, .integer n =>
    rintro ⟨hne, hround⟩
    rw [order_eq_iff, signedUnits_ofInt ha, signedUnits_ofInt hc, mul_unitsPerOne_inj] at hround
    exact hne hround
  | .integer _, .binary _ | .binary _, .integer _ | .binary _, .binary _ => exact id

end Number
end NestedData
