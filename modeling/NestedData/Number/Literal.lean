import NestedData.Number.Binary64
/-!
Numbers, and what a written number denotes. A number is an integer of the signed or unsigned 64-bit
range or a finite binary number. Integers in that range are kept exactly, except that a negative
zero is a binary number; every other written number is rounded: its leading digits, as far as they
fit 64 bits, are rounded first and then scaled by a rounded power of ten.
-/

namespace NestedData

inductive Number where
  | integer (value : Int)
  | binary (value : Binary64)
  deriving DecidableEq, Repr

/-- A number as written: digits without a needless leading zero, after an optional point and after
an optional exponent mark. -/
structure NumberLiteral where
  negative : Bool
  whole : List Char
  fraction : List Char
  exponent : Option Int
  deriving DecidableEq, Repr

namespace Number

def digitValue (c : Char) : Nat := c.toNat - '0'.toNat

def smallestInteger : Int := -0x8000000000000000
def largestInteger : Int := 0xFFFFFFFFFFFFFFFF

/-- Takes digits into `n` as long as the result fits 64 bits; the digits left over come second. -/
def absorb (n : Nat) : List Char → Nat × List Char
  | [] => (n, [])
  | d :: ds =>
    let m := 10 * n + digitValue d
    if m < 0x10000000000000000 then absorb m ds else (n, d :: ds)

def powerOfTen (k : Nat) : Binary64 :=
  (Binary64.ofRatio? false (Nat.pow 10 k) 1).getD (.largest false)

def topPower : Nat := 308

/-- The number divided by `10 ^ k`, in steps of at most the greatest finite power of ten. -/
def scaleDown (x : Binary64) (k : Nat) : Option Binary64 :=
  if k ≤ topPower then x.div? (powerOfTen k)
  else if x.magnitude = 0 then some x
  else (x.div? (powerOfTen topPower)).bind fun y => scaleDown y (k - topPower)
termination_by k
decreasing_by simp only [topPower] at *; omega

def scale (x : Binary64) (exponent : Int) : Option Binary64 :=
  if exponent < 0 then scaleDown x (-exponent).toNat
  else if exponent.toNat ≤ topPower then x.mul? (powerOfTen exponent.toNat)
  else if x.magnitude = 0 then some x
  else none

def binaryOf? (literal : NumberLiteral) : Option Binary64 := do
  let (n, surplus) := absorb 0 literal.whole
  let (m, dropped) := absorb n literal.fraction
  let taken := literal.fraction.length - dropped.length
  let exponent : Int := (surplus.length : Int) - taken + literal.exponent.getD 0
  let x ← scale (.ofInt m) exponent
  return { x with negative := literal.negative }

/-- The number a literal denotes, and `none` when it lies beyond the finite range. -/
def ofLiteral? (literal : NumberLiteral) : Option Number :=
  let n : Int := (literal.whole.foldl (fun n d => 10 * n + digitValue d) 0 : Nat)
  let n := if literal.negative then -n else n
  if literal.fraction = [] ∧ literal.exponent = none ∧ smallestInteger ≤ n ∧ n ≤ largestInteger
      ∧ ¬(literal.negative ∧ n = 0) then
    some (.integer n)
  else
    (binaryOf? literal).map .binary

end Number
end NestedData
