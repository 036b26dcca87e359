import NestedData.Text.Hex
/-!
Sets of code points as lists of ranges, ends included, in ascending order and apart from each other.
The ends of ranges are characters: the numbers from D800 to DFFF, which are none, are stepped over
when a range ends beside them.

The notation of a set is hexadecimal: numbers and ranges written with a hyphen, parted by blanks. A
number after a slash is the stride of a range of which only every so many code points are meant.
-/

namespace NestedData.Unicode

abbrev CodeRanges := List (Nat × Nat)

namespace CodeRanges

def last : Nat := 0x10FFFF

def full : CodeRanges := [(0, last)]

def single (n : Nat) : CodeRanges := [(n, n)]

def holds (ranges : CodeRanges) (n : Nat) : Bool := ranges.any fun r => r.1 ≤ n && n ≤ r.2

def before (n : Nat) : Nat := if n = 0xE000 then 0xD7FF else n - 1

def after (n : Nat) : Nat := if n = 0xD7FF then 0xE000 else n + 1

def glue (r : Nat × Nat) : CodeRanges → CodeRanges
  | [] => [r]
  | s :: rest =>
    if s.1 ≤ r.2 + 1 then glue (r.1, max r.2 s.2) rest else r :: glue s rest

def glued : CodeRanges → CodeRanges
  | [] => []
  | r :: rest => glue r rest

def ofList (ranges : List (Nat × Nat)) : CodeRanges :=
  glued (ranges.mergeSort fun r s => r.1 ≤ s.1)

def ofPoints (points : List Nat) : CodeRanges := ofList (points.map fun n => (n, n))

def union (a b : CodeRanges) : CodeRanges := glued (List.merge a b fun r s => r.1 ≤ s.1)

def unions (sets : List CodeRanges) : CodeRanges := ofList sets.flatten

def inter : CodeRanges → CodeRanges → CodeRanges
  | [], _ => []
  | _, [] => []
  | r :: rs, s :: ss =>
    let rest := if r.2 < s.2 then inter rs (s :: ss) else inter (r :: rs) ss
    let low := max r.1 s.1
    let high := min r.2 s.2
    if low ≤ high then (low, high) :: rest else rest
termination_by a b => a.length + b.length

def diff : CodeRanges → CodeRanges → CodeRanges
  | [], _ => []
  | rs, [] => rs
  | r :: rs, s :: ss =>
    if s.2 < r.1 then diff (r :: rs) ss
    else if r.2 < s.1 then r :: diff rs (s :: ss)
    else
      let rest := if s.2 < r.2 then diff ((after s.2, r.2) :: rs) ss else diff rs (s :: ss)
      if r.1 < s.1 then (r.1, before s.1) :: rest else rest
termination_by a b => a.length + b.length

def symmDiff (a b : CodeRanges) : CodeRanges := (a.union b).diff (a.inter b)

/-- The gaps after a range that ends in `high`. A gap that holds no character, only numbers that are
none, counts as the two characters beside it. -/
def gapsAfter (high : Nat) : CodeRanges → CodeRanges
  | [] => if high < last then [(after high, last)] else []
  | s :: rest =>
    let low := after high
    let up := before s.1
    (min low up, max low up) :: gapsAfter s.2 rest

def compl : CodeRanges → CodeRanges
  | [] => full
  | r :: rest =>
    let gaps := gapsAfter r.2 rest
    if 0 < r.1 then (0, before r.1) :: gaps else gaps

def spread (low high stride : Nat) : CodeRanges :=
  if stride ≤ 1 then [(low, high)]
  else (List.range ((high - low) / stride + 1)).map fun i =>
    (low + i * stride, low + i * stride)

/-- A notation in the course of being read: the ranges so far, last first, the numbers of the
current one that were completed, and the number being read. -/
structure Reading where
  done : List (Nat × Nat) := []
  low : Option Nat := none
  high : Option Nat := none
  number : Option Nat := none

def Reading.close (r : Reading) : Reading :=
  match r.low, r.high, r.number with
  | some low, some high, some stride => { done := (spread low high stride).reverse ++ r.done }
  | some low, none, some high => { done := (low, high) :: r.done }
  | none, _, some n => { done := (n, n) :: r.done }
  | _, _, none => r

def Reading.next (r : Reading) (c : Char) : Reading :=
  match Text.hexValue? c with
  | some d => { r with number := some (16 * r.number.getD 0 + d) }
  | none =>
    if c = '-' then { r with low := r.number, number := none }
    else if c = '/' then { r with high := r.number, number := none }
    else r.close

def ofHex (text : String) : CodeRanges :=
  (text.foldl Reading.next {}).close.done.reverse

end CodeRanges

structure CodeTable where
  ranges : Array (Nat × Nat)
  deriving Repr

namespace CodeTable

def ofRanges (ranges : CodeRanges) : CodeTable := ⟨ranges.toArray⟩

def place (t : CodeTable) (n low high : Nat) : Nat :=
  if low < high then
    let mid := (low + high) / 2
    match t.ranges[mid]? with
    | some r => if r.1 ≤ n then place t n (mid + 1) high else place t n low mid
    | none => low
  else low
termination_by high - low

def holds (t : CodeTable) (n : Nat) : Bool :=
  match t.place n 0 t.ranges.size with
  | 0 => false
  | i + 1 =>
    match t.ranges[i]? with
    | some r => n ≤ r.2
    | none => false

end CodeTable
end NestedData.Unicode
