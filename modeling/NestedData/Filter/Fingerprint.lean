import NestedData.Filter.Comparison
import NestedData.Text.Quoted
/-!
Fingerprints of values, by which sets of literals are searched. Whole binary numbers below nine
quadrillion share the fingerprint of the integer, and objects that differ in the order of members
share theirs. Strings are taken over as they are, so that fingerprints of different lists may agree.
-/

namespace NestedData.Value

/-- Whole binary numbers below this have the fingerprint of an integer. -/
def wholeLimit : Nat := 9000000000000000

def numberPrint : Number → List Char
  | .integer n => Number.integerText n
  | .binary x =>
    match x.whole? with
    | some n =>
      if n < wholeLimit then Number.integerText (if x.negative then -(n : Int) else n) else x.text
    | none => x.text

def commaJoined (parts : List (List Char)) : List Char := [','].intercalate parts

mutual
def fingerprint : Value → List Char
  | .null => "null".toList
  | .bool b => (if b then "true" else "false").toList
  | .number n => 'n' :: ':' :: numberPrint n
  | .string s => 's' :: ':' :: s.toList
  | .array items => 'a' :: ':' :: '[' :: commaJoined (itemPrints items) ++ [']']
  | .object members =>
    'o' :: ':' :: '\x7b' ::
      commaJoined ((memberPrints members).mergeSort fun a b => Comparison.ofTexts a b != .gt) ++
        ['\x7d']

def itemPrints : List Value → List (List Char)
  | [] => []
  | v :: rest => fingerprint v :: itemPrints rest

def memberPrints : List (String × Value) → List (List Char)
  | [] => []
  | (k, v) :: rest => (Text.quoteShown k ++ '=' :: fingerprint v) :: memberPrints rest
end

end NestedData.Value
