import NestedData.Number.Literal
import NestedData.Number.Shortest
/-!
Order and text of numbers. Two integers are compared exactly; as soon as one side is a binary number
the integer is rounded to one. So the order is not transitive: integers beyond `2 ^ 53` that round
to one binary number all equal it.
-/

namespace NestedData.Number

def toBinary64 : Number → Binary64
  | .integer n => .ofInt n
  | .binary x => x

def order : Number → Number → Ordering
  | .integer m, .integer n => compare m n
  | a, b => a.toBinary64.order b.toBinary64

def same : Number → Number → Bool
  | .integer m, .integer n => m = n
  | .binary x, .binary y => x.order y = .eq
  | _, _ => false

def integerText (n : Int) : List Char :=
  if n < 0 then '-' :: Nat.toDigits 10 n.natAbs else Nat.toDigits 10 n.natAbs

def text : Number → List Char
  | .integer n => integerText n
  | .binary x => x.text

end NestedData.Number
