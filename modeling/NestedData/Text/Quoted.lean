import NestedData.Text.Hex
import NestedData.Unicode.Recent
/-!
Quoted text in which every character can be told from its neighbours: quotes and backslashes are
escaped, and a character that has no shape of its own is given by its number.
-/

namespace NestedData.Text

def byNumber (c : Char) : List Char := ['\\', 'u', '\x7b'] ++ hexText c.toNat ++ ['\x7d']

def escapeShown (c : Char) : List Char :=
  if c.toNat = 0 then ['\\', '0']
  else if c = '\t' then ['\\', 't']
  else if c = '\r' then ['\\', 'r']
  else if c = '\n' then ['\\', 'n']
  else if c = '"' || c = '\\' then ['\\', c]
  else if c.toNat < 0x7F && 0x20 ≤ c.toNat then [c]
  else if Unicode.isExtender c.toNat || Unicode.isUnprintable c.toNat then byNumber c
  else [c]

def quoteShown (s : String) : List Char := '"' :: s.toList.flatMap escapeShown ++ ['"']

end NestedData.Text
