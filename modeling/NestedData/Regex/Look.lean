import NestedData.Regex.CharSet
import NestedData.Unicode.Classes
/-!
Conditions on a position in a text, given by the characters before and after it.
-/

namespace NestedData.Regex

inductive Look where
  | textStart
  | textEnd
  | lineStart
  | lineEnd
  /-- Lines that may end in carriage return, line feed or both. -/
  | anyLineStart
  | anyLineEnd
  | boundary (unicode : Bool)
  | notBoundary (unicode : Bool)
  | wordStart (unicode : Bool)
  | wordEnd (unicode : Bool)
  | notAfterWord (unicode : Bool)
  | notBeforeWord (unicode : Bool)
  deriving DecidableEq, Repr

def wordTable : Unicode.CodeTable := .ofRanges Unicode.words

def ofWord (unicode : Bool) : Option Char → Bool
  | none => false
  | some c => if unicode then wordTable.holds c.toNat else CharSet.asciiWord.holds c.toNat

def Look.holds (before after : Option Char) : Look → Bool
  | .textStart => before.isNone
  | .textEnd => after.isNone
  | .lineStart => before.isNone || before = some '\n'
  | .lineEnd => after.isNone || after = some '\n'
  | .anyLineStart =>
    before.isNone || before = some '\n' || (before = some '\r' && after != some '\n')
  | .anyLineEnd =>
    after.isNone || after = some '\r' || (after = some '\n' && before != some '\r')
  | .boundary u => ofWord u before != ofWord u after
  | .notBoundary u => ofWord u before = ofWord u after
  | .wordStart u => !ofWord u before && ofWord u after
  | .wordEnd u => ofWord u before && !ofWord u after
  | .notAfterWord u => !ofWord u before
  | .notBeforeWord u => !ofWord u after

end NestedData.Regex
