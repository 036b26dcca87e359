import NestedData.Regex.Delimited
/-!
The engine that patterns are compiled and matched by. Filters and caches are defined over any
engine: which texts are patterns and what they match is its own affair, and only the delimited form
of a pattern is read before it is asked.
-/

namespace NestedData.Regex

structure Engine where
  Pattern : Type
  compile? : String → Option Pattern
  isMatch : Pattern → String → Bool

def Engine.ofDelimited? (engine : Engine) (text : String) : Option engine.Pattern :=
  engine.compile? (undelimited text)

end NestedData.Regex
