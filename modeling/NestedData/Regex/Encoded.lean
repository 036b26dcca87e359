import NestedData.Regex.Pattern
import NestedData.Unicode.Utf8
/-!
Patterns over bytes, as they are put into an automaton that reads a text forward or backward. What
is of interest of the parts is what they need: single states with their bytes of transitions, or
sequences of ranges of bytes.
-/

namespace NestedData.Regex

inductive Encoded where
  /-- Bytes one after the other, a state for each. -/
  | word (bytes : List Nat)
  /-- So many states with so many bytes of transitions. -/
  | fixed (states extra : Nat)
  | ranges (sequences : List (List Unicode.ByteRange))
  /-- `filling` repetitions cannot go on without an end on what is empty. -/
  | repeated (p : Encoded) (least : Nat) (most : Option Nat) (filling : Bool)
  | group (p : Encoded)
  | seq (p q : Encoded)
  /-- The first two of several alternatives. -/
  | alt (p q : Encoded)
  /-- Alternatives and a further one. -/
  | altNext (p q : Encoded)
  deriving DecidableEq, Repr

/-! Words side by side make a tree. At each node the words that go on are parted into stretches by
the words that end there, because the order of alternatives matters. -/

namespace WordTree

/-- Words that go on, by their first bytes, in the order in which the bytes come up. -/
abbrev Stretch := List (Nat × List (List Nat))

def Stretch.add (first : Nat) (tail : List Nat) : Stretch → Stretch
  | [] => [(first, [tail])]
  | (b, tails) :: rest =>
    if b = first then (b, tails ++ [tail]) :: rest else (b, tails) :: Stretch.add first tail rest

def stretchesAfter (current : Stretch) : List (List Nat) → List Stretch
  | [] => [current]
  | [] :: words => current :: stretchesAfter [] words
  | (b :: tail) :: words => stretchesAfter (current.add b tail) words

/-- The stretches of some words. Words that end before the first one that goes on count once. -/
def stretches (words : List (List Nat)) : List Stretch :=
  stretchesAfter [] ((words.takeWhile (·.isEmpty)).take 1 ++ words.dropWhile (·.isEmpty))

def room : Nat → List (List Nat) → Nat × Nat
  | 0, _ => (0, 0)
  | rounds + 1, words =>
    if words.all (·.isEmpty) then (0, 0)
    else
      let parts := stretches words
      let filled := parts.filter (!·.isEmpty)
      let branches := filled.length + (parts.length - 1)
      let extra := filled.map fun s => if s.length = 1 then 0 else 8 * s.length
      let below := parts.flatMap fun s => s.map fun e => room rounds e.2
      (1 + filled.length + total (below.map (·.1)),
        4 * branches + total extra + total (below.map (·.2)))

end WordTree

namespace Encoded

def bytes? : Encoded → Option (List Nat)
  | .word bytes => some bytes
  | _ => none

def ofAlternatives : List Encoded → Encoded
  | [] => .fixed 0 0
  | [p] => p
  | p :: q :: rest =>
    match (p :: q :: rest).mapM bytes? with
    | some words =>
      let (states, extra) := WordTree.room (total (words.map List.length) + 1) words
      .fixed (states + 1) extra
    | none => rest.foldl .altNext (.alt p q)

abbrev Sequences := List (CharSet × List (List Unicode.ByteRange))

def ofSet (known : Sequences) (s : CharSet) : Encoded :=
  if s.all (·.2 < 0x80) then .fixed 2 (8 * s.length) else .ranges ((known.lookup s).getD [])

/-- The alternatives of a pattern over bytes. Read backward, parts and bytes come in the other order
and groups leave no trace. -/
def alternatives (known : Sequences) (backward : Bool) : Pattern → List Encoded
  | .empty | .look _ => [.fixed 1 0]
  | .literal cs =>
    let bytes := cs.flatMap fun c => Unicode.utf8 c.toNat
    [.word (if backward then bytes.reverse else bytes)]
  | .set s => [ofSet known s]
  | .repeated p least most _ =>
    [.repeated (ofAlternatives (alternatives known backward p)) least most
      (p.neverEmpty && !p.holdsNever)]
  | .group _ p =>
    let inner := ofAlternatives (alternatives known backward p)
    [if backward then inner else .group inner]
  | .seq p q =>
    let first := ofAlternatives (alternatives known backward p)
    let second := ofAlternatives (alternatives known backward q)
    [if backward then .seq second first else .seq first second]
  | .alt p q => alternatives known backward p ++ alternatives known backward q

def ofPattern (known : Sequences) (backward : Bool) (p : Pattern) : Encoded :=
  ofAlternatives (alternatives known backward p)

end Encoded
end NestedData.Regex
