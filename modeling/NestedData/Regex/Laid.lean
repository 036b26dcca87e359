import NestedData.Regex.Pattern
/-!
Matching. A pattern is laid over a text: what it says of characters becomes the set of positions at
which it holds. Matching then moves a set of positions to the set of positions where a match begun
at one of them may end. Nothing here depends on which of several matches is preferred, because only
the existence of a match is asked for.

Positions are counted from the start of the text, and a set of positions is a number that has the
bit of each of them.
-/

namespace NestedData.Regex

abbrev Places := Nat

inductive Laid where
  /-- At one of the places, so many characters are passed. -/
  | pass (marks : Places) (width : Nat)
  /-- Exactly `least` times and then up to `more` times. -/
  | repeated (p : Laid) (least more : Nat)
  | seq (p q : Laid)
  | alt (p q : Laid)
  deriving DecidableEq, Repr

namespace Places

/-- The bits of some elements in the course of being put together from the last element on: those
that are done, and up to 59 before them, which are gathered first because a small number is made
longer in less time than a large one. -/
structure Gathering where
  done : Nat := 0
  recent : Nat := 0
  count : Nat := 0

def Gathering.push (g : Gathering) (bit : Bool) : Gathering :=
  let recent := 2 * g.recent + bit.toNat
  if g.count = 59 then { done := g.done <<< 60 + recent }
  else { g with recent, count := g.count + 1 }

def Gathering.toPlaces (g : Gathering) : Places := g.done <<< g.count + g.recent

def ofList {α : Type} (p : α → Bool) (xs : List α) : Places :=
  (xs.foldr (fun x g => g.push (p x)) ({} : Gathering)).toPlaces

def all (length : Nat) : Places := Nat.pow 2 (length + 1) - 1

end Places

def textsFrom : List Char → List (List Char)
  | [] => [[]]
  | c :: cs => (c :: cs) :: textsFrom cs

def neighbours (text : List Char) : List (Option Char × Option Char) :=
  List.zip (none :: text.map some) (text.map some ++ [none])

namespace Pattern

def placesOf (s : CharSet) (text : List Char) : Places :=
  let table := Unicode.CodeTable.ofRanges s
  .ofList (fun c => table.holds c.toNat) text

/-- Lays the pattern over a text, given the places of its sets. What is reached by repetition at all
is reached by fewer rounds than there are positions. -/
def layOver (text : List Char) (placed : List (CharSet × Places)) : Pattern → Laid
  | .empty => .pass (.all text.length) 0
  | .literal cs => .pass (.ofList cs.isPrefixOf (textsFrom text)) cs.length
  | .set s => .pass ((placed.lookup s).getD 0) 1
  | .look l => .pass (.ofList (fun n => l.holds n.1 n.2) (neighbours text)) 0
  | .repeated p least none _ => .repeated (p.layOver text placed) least (text.length + 1)
  | .repeated p least (some most) _ => .repeated (p.layOver text placed) least (most - least)
  | .group _ p => p.layOver text placed
  | .seq p q => .seq (p.layOver text placed) (q.layOver text placed)
  | .alt p q => .alt (p.layOver text placed) (q.layOver text placed)

end Pattern

namespace Laid

def exactly (step : Places → Places) : Nat → Places → Places
  | 0, places => places
  | n + 1, places =>
    let next := step places
    if next = places then places else exactly step n next

/-- The places reached by up to so many steps. Only places that were not reached before have to be
gone on from. -/
def upTo (step : Places → Places) : Nat → Places → Places → Places
  | 0, _, reached => reached
  | n + 1, fresh, reached =>
    let more := reached ||| step fresh
    if more = reached then reached else upTo step n (more ^^^ reached) more

def ends : Laid → Places → Places
  | .pass marks width, places => (places &&& marks) <<< width
  | .repeated p least more, places =>
    let first := exactly p.ends least places
    upTo p.ends more first first
  | .seq p q, places => q.ends (p.ends places)
  | .alt p q, places => p.ends places ||| q.ends places

end Laid

def Pattern.isMatch (p : Pattern) (text : String) : Bool :=
  let cs := text.toList
  let placed := p.sets.map fun s => (s, placesOf s cs)
  (p.layOver cs placed).ends (.all cs.length) != 0

end NestedData.Regex
