import NestedData.Regex.Engine
import NestedData.Regex.Reader
/-!
An engine: the patterns of this library, matched through finite automata.
-/

namespace NestedData.Regex

def dialect : Engine where
  Pattern := Pattern
  compile? := Pattern.ofText?
  isMatch := Pattern.isMatch

end NestedData.Regex
