import NestedData.Number.Binary64
/-!
The decimal text of a binary number: the fewest digits that read back as the same number, of those
the digits nearest to it. A decimal reads back when it lies between the midpoints to the two
neighbouring numbers, the midpoints included when the significand is even.
-/

namespace NestedData.Binary64

/-- The value as a quotient of whole numbers, four times enlarged so that midpoints are whole. -/
structure Span where
  low : Nat
  value : Nat
  high : Nat
  scale : Nat
  closed : Bool
  deriving DecidableEq, Repr

/-- The decimals that read back as `x`: those between `low` and `high`, over `scale`. Below a power
of two the neighbours stand half as far apart. -/
def span (x : Binary64) : Span :=
  let step := Nat.pow 2 x.shift
  let below := if x.significand = implicitBit ∧ 0 < x.shift then step else 2 * step
  { low := 4 * x.units - below
    value := 4 * x.units
    high := 4 * x.units + 2 * step
    scale := 4 * unitsPerOne
    closed := x.significand % 2 = 0 }

def Span.holds (s : Span) (num den : Nat) : Bool :=
  let n := num * s.scale
  if s.closed then s.low * den ≤ n && n ≤ s.high * den else s.low * den < n && n < s.high * den

structure Decimal where
  digits : Nat
  exponent : Int
  deriving DecidableEq, Repr

def leadingExponent (num den : Nat) : Int :=
  if den ≤ num then ((Nat.toDigits 10 (num / den)).length : Int) - 1
  else
    let j := (Nat.toDigits 10 (den / num)).length
    if num * Nat.pow 10 (j - 1) = den then -((j - 1 : Nat) : Int) else -(j : Int)

/-- The member of the span nearest to its value among the multiples of `10 ^ exponent`, if any. -/
def Span.onGrid? (s : Span) (exponent : Int) : Option Decimal :=
  let up := Nat.pow 10 exponent.toNat
  let down := Nat.pow 10 (-exponent).toNat
  let num := s.value * down
  let den := s.scale * up
  let d := num / den
  let lower := s.holds (d * up) down
  let upper := s.holds ((d + 1) * up) down
  let r := num % den
  if lower && (!upper || 2 * r < den || (2 * r = den && d % 2 = 0)) then some ⟨d, exponent⟩
  else if upper then some ⟨d + 1, exponent⟩
  else none

def Span.firstHit (s : Span) : List Int → Decimal
  | [] => ⟨0, 0⟩
  | e :: es => (s.onGrid? e).getD (s.firstHit es)

/-- The shortest decimal of a number other than zero. Seventeen digits tell all numbers apart. -/
def shortest (x : Binary64) : Decimal :=
  let s := x.span
  let lead := leadingExponent s.value s.scale
  s.firstHit ((List.range 17).map fun (n : Nat) => lead - (n : Int))

structure DecimalLayout where
  /-- Leading exponents written without an exponent part, from the least to the greatest. -/
  plainFrom : Int
  plainTo : Int
  deriving Repr

/-- Numbers from `0.00001` up to below ten quadrillion are written plainly. -/
def layout : DecimalLayout := ⟨-5, 15⟩

def zeros (n : Nat) : List Char := List.replicate n '0'

def plainText (digits : List Char) (lead : Int) : List Char :=
  if lead < 0 then '0' :: '.' :: zeros (-lead - 1).toNat ++ digits
  else
    let n := lead.toNat + 1
    if digits.length ≤ n then digits ++ zeros (n - digits.length) ++ ['.', '0']
    else digits.take n ++ '.' :: digits.drop n

def exponentText (lead : Int) : List Char :=
  'e' :: (if lead < 0 then '-' else '+') :: Nat.toDigits 10 lead.natAbs

def scientificText (digits : List Char) (lead : Int) : List Char :=
  match digits with
  | [] => []
  | [d] => d :: exponentText lead
  | d :: ds => d :: '.' :: ds ++ exponentText lead

def absText (x : Binary64) : List Char :=
  if x.magnitude = 0 then ['0', '.', '0']
  else
    let d := x.shortest
    let digits := Nat.toDigits 10 d.digits
    let lead := d.exponent + (digits.length - 1 : Nat)
    -- A carry into the next power of ten leaves a zero that says nothing.
    let digits := (digits.reverse.dropWhile (· = '0')).reverse
    if layout.plainFrom ≤ lead ∧ lead ≤ layout.plainTo then plainText digits lead
    else scientificText digits lead

def text (x : Binary64) : List Char := if x.negative then '-' :: x.absText else x.absText

end NestedData.Binary64
