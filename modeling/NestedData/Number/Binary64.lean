/-!
Finite binary floating-point numbers of 64 bits. A number is a sign and a magnitude: the exponent
and fraction fields read as one natural number, so that greater magnitudes are greater values. Every
value is a whole number of units of `2 ^ -1074`, which makes order and rounding exact arithmetic.
-/

namespace NestedData

structure Binary64 where
  negative : Bool
  magnitude : Nat
  finite : magnitude < 0x7FF0000000000000 := by decide
  deriving DecidableEq, Repr

namespace Binary64

/-- Fractions have 52 bits; a magnitude below this has no leading one of its own. -/
def implicitBit : Nat := 0x10000000000000

/-- A unit is one, halved this many times. Kept closed, for the power is too great to be written
out. -/
@[irreducible] def unitExponent : Nat := 1074

def unitsPerOne : Nat := Nat.pow 2 unitExponent

def zero (negative : Bool) : Binary64 := ⟨negative, 0, by decide⟩

def largest (negative : Bool) : Binary64 := ⟨negative, 0x7FEFFFFFFFFFFFFF, by decide⟩

def significand (x : Binary64) : Nat :=
  if x.magnitude < implicitBit then x.magnitude else x.magnitude % implicitBit + implicitBit

/-- The distance to the next greater magnitude is `2 ^ x.shift` units. -/
def shift (x : Binary64) : Nat := x.magnitude / implicitBit - 1

def units (x : Binary64) : Nat := x.significand * Nat.pow 2 x.shift

def signedUnits (x : Binary64) : Int := if x.negative then -(x.units : Int) else x.units

/-- The order of the values denoted; the two zeros are equal. -/
def order (x y : Binary64) : Ordering := compare x.signedUnits y.signedUnits

def roundHalfEven (num den : Nat) : Nat :=
  let q := num / den
  let r := num % den
  if 2 * r < den then q
  else if den < 2 * r then q + 1
  else q + q % 2

/-- Numbers of `u` units are this many doublings away from a spacing of one unit. -/
def spacing (u : Nat) : Nat := u.log2 - 52

/-- The magnitude nearest to `num / den`, the even one of two equally near, and `none` beyond the
finite range. -/
def nearestMagnitude? (num den : Nat) : Option { m : Nat // m < 0x7FF0000000000000 } :=
  let s := spacing (num * unitsPerOne / den)
  let m := s * implicitBit + roundHalfEven (num * unitsPerOne) (den * Nat.pow 2 s)
  if h : m < 0x7FF0000000000000 then some ⟨m, h⟩ else none

def ofRatio? (negative : Bool) (num den : Nat) : Option Binary64 :=
  (nearestMagnitude? num den).map fun m => ⟨negative, m.1, m.2⟩

/-- The nearest number to an integer, the greatest finite one beyond the finite range. -/
def ofInt (n : Int) : Binary64 :=
  (ofRatio? (n < 0) n.natAbs 1).getD (largest (n < 0))

def whole? (x : Binary64) : Option Nat :=
  if x.units % unitsPerOne = 0 then some (x.units / unitsPerOne) else none

def mul? (x y : Binary64) : Option Binary64 :=
  ofRatio? (x.negative != y.negative) (x.units * y.units) (unitsPerOne * unitsPerOne)

def div? (x y : Binary64) : Option Binary64 :=
  ofRatio? (x.negative != y.negative) x.units y.units

end Binary64
end NestedData
