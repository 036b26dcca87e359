import NestedData.Unicode.Folding
/-!
Sets of characters as patterns describe them, and the ASCII classes. A set is closed under case when
it holds a character as soon as it holds one that differs from it in case only.
-/

namespace NestedData.Regex

abbrev CharSet := Unicode.CodeRanges

namespace CharSet

def ofChar (c : Char) : CharSet := Unicode.CodeRanges.single c.toNat

def asciiVariants (n : Nat) : List Nat :=
  if 0x41 ≤ n ∧ n ≤ 0x5A then [n, n + 32]
  else if 0x61 ≤ n ∧ n ≤ 0x7A then [n, n - 32]
  else [n]

def anyAsciiCase (s : CharSet) : CharSet :=
  Unicode.CodeRanges.ofList (s ++
    (s.inter [(0x41, 0x5A)]).map (fun r => (r.1 + 32, r.2 + 32)) ++
    (s.inter [(0x61, 0x7A)]).map (fun r => (r.1 - 32, r.2 - 32)))

def asciiDigit : CharSet := [(0x30, 0x39)]

def asciiBlank : CharSet := [(0x09, 0x0D), (0x20, 0x20)]

def asciiWord : CharSet := [(0x30, 0x39), (0x41, 0x5A), (0x5F, 0x5F), (0x61, 0x7A)]

def asciiClasses : List (String × CharSet) :=
  [("alnum", [(0x30, 0x39), (0x41, 0x5A), (0x61, 0x7A)]), ("alpha", [(0x41, 0x5A), (0x61, 0x7A)]),
   ("ascii", [(0x00, 0x7F)]), ("blank", [(0x09, 0x09), (0x20, 0x20)]),
   ("cntrl", [(0x00, 0x1F), (0x7F, 0x7F)]), ("digit", asciiDigit), ("graph", [(0x21, 0x7E)]),
   ("lower", [(0x61, 0x7A)]), ("print", [(0x20, 0x7E)]),
   ("punct", [(0x21, 0x2F), (0x3A, 0x40), (0x5B, 0x60), (0x7B, 0x7E)]), ("space", asciiBlank),
   ("upper", [(0x41, 0x5A)]), ("word", asciiWord),
   ("xdigit", [(0x30, 0x39), (0x41, 0x46), (0x61, 0x66)])]

end CharSet
end NestedData.Regex
