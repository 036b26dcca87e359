import NestedData.Json.Value
/-!
Comparing a field with a literal. Equality is defined for all values. Order is defined for two
numbers, two strings and two booleans, and for a number and a string, which compare as texts; what
has no order makes the record unfit to be judged.
-/

namespace NestedData

inductive Comparison where
  | eq
  | gt
  | lt
  | gte
  | lte
  deriving DecidableEq, Repr

namespace Comparison

def ofTexts (a b : List Char) : Ordering := compareOfLessAndEq a b

def order? : Value → Value → Option Ordering
  | .number a, .number b => some (a.order b)
  | .string a, .string b => some (ofTexts a.toList b.toList)
  | .bool a, .bool b => some (compare a b)
  | .number a, .string b => some (ofTexts a.text b.toList)
  | .string a, .number b => some (ofTexts a.toList b.text)
  | _, _ => none

def test (c : Comparison) (field literal : Value) : Option Bool :=
  match c with
  | .eq => some (field.equal literal)
  | .gt => (order? field literal).map (· = .gt)
  | .lt => (order? field literal).map (· = .lt)
  | .gte => (order? field literal).map (· ≠ .lt)
  | .lte => (order? field literal).map (· ≠ .gt)

end Comparison
end NestedData
