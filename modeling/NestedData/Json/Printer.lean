import NestedData.Json.Value
/-!
The compact text of a value: no blanks, members in stored order, and in strings only quotes,
backslashes and control characters escaped.
-/

namespace NestedData.Value

def hexDigit (n : Nat) : Char := Nat.digitChar (n % 16)

def escape (c : Char) : List Char :=
  if c = '"' then ['\\', '"']
  else if c = '\\' then ['\\', '\\']
  else if c = '\n' then ['\\', 'n']
  else if c = '\r' then ['\\', 'r']
  else if c = '\t' then ['\\', 't']
  else if c.toNat = 8 then ['\\', 'b']
  else if c.toNat = 12 then ['\\', 'f']
  else if c.toNat < 32 then ['\\', 'u', '0', '0', hexDigit (c.toNat / 16), hexDigit c.toNat]
  else [c]

def quoted (s : String) : List Char := '"' :: s.toList.flatMap escape ++ ['"']

mutual
def print : Value → List Char
  | .null => "null".toList
  | .bool b => (if b then "true" else "false").toList
  | .number n => n.text
  | .string s => quoted s
  | .array items => '[' :: printItems items ++ [']']
  | .object members => '\x7b' :: printMembers members ++ ['\x7d']

def printItems : List Value → List Char
  | [] => []
  | v :: rest => print v ++ printMoreItems rest

def printMoreItems : List Value → List Char
  | [] => []
  | v :: rest => ',' :: print v ++ printMoreItems rest

def printMembers : List (String × Value) → List Char
  | [] => []
  | (k, v) :: rest => quoted k ++ ':' :: print v ++ printMoreMembers rest

def printMoreMembers : List (String × Value) → List Char
  | [] => []
  | (k, v) :: rest => ',' :: quoted k ++ ':' :: print v ++ printMoreMembers rest
end

def text (v : Value) : String := String.ofList v.print

end NestedData.Value
