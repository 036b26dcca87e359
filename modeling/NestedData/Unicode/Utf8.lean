import NestedData.Unicode.CodeRanges
/-!
UTF-8, and ranges of characters as sequences of ranges of bytes. A range is parted so that each part
holds just the characters whose bytes lie in ranges independent of each other.
-/

namespace NestedData.Unicode

def utf8 (n : Nat) : List Nat :=
  if n < 0x80 then [n]
  else if n < 0x800 then [0xC0 + n / 64, 0x80 + n % 64]
  else if n < 0x10000 then [0xE0 + n / 4096, 0x80 + n / 64 % 64, 0x80 + n % 64]
  else [0xF0 + n / 262144, 0x80 + n / 4096 % 64, 0x80 + n / 64 % 64, 0x80 + n % 64]

structure ByteRange where
  low : Nat
  high : Nat
  deriving DecidableEq, Repr

/-- The character at which the upper part of a range begins that has to be parted: after the numbers
that are no characters, where the bytes become more, or where a block of trailing bytes is full. -/
def cut? (low high : Nat) : Option Nat :=
  if low < 0xE000 ∧ 0xD7FF < high then some 0xE000
  else match [0x80, 0x800, 0x10000].find? fun n => low < n ∧ n ≤ high with
    | some n => some n
    | none =>
      if high < 0x80 then none
      else [64, 4096, 262144].findSome? fun block =>
        if low / block = high / block then none
        else if low % block ≠ 0 then some ((low / block + 1) * block)
        else if high % block ≠ block - 1 then some (high / block * block)
        else none

def byteSequences (low high : Nat) : List (List ByteRange) :=
  match cut? low high with
  | none => [List.zipWith ByteRange.mk (utf8 low) (utf8 high)]
  | some n =>
    if low < n ∧ n ≤ high then
      byteSequences low (CodeRanges.before n) ++ byteSequences n high
    else []
termination_by high - low
decreasing_by
  · simp only [CodeRanges.before]; split <;> omega
  · omega

def CodeRanges.byteSequences (s : CodeRanges) : List (List ByteRange) :=
  s.flatMap fun r => Unicode.byteSequences r.1 r.2

end NestedData.Unicode
