import NestedData.Regex.Look
/-!
Patterns. They are put together in one form only: parts that follow each other are held in a row,
neighbouring characters in one literal, and alternatives side by side; a choice between single
characters is a set, and what all alternatives begin with stands before them.
-/

namespace NestedData.Regex

inductive Pattern where
  | empty
  /-- Characters, at least one, one after the other. -/
  | literal (cs : List Char)
  | set (s : CharSet)
  | look (l : Look)
  /-- At least `least` and at most `most` times, or any number of times from `least` on. -/
  | repeated (p : Pattern) (least : Nat) (most : Option Nat) (greedy : Bool)
  | group (index : Nat) (p : Pattern)
  | seq (p q : Pattern)
  | alt (p q : Pattern)
  deriving DecidableEq, Repr

def total (sizes : List Nat) : Nat := sizes.foldl (· + ·) 0

namespace Pattern

def onlyEmpty : Pattern → Bool
  | .empty | .look _ => true
  | .literal _ | .set _ => false
  | .repeated p _ most _ => most.isSome && p.onlyEmpty
  | .group _ p => p.onlyEmpty
  | .seq p q | .alt p q => p.onlyEmpty && q.onlyEmpty

def neverEmpty : Pattern → Bool
  | .empty | .look _ => false
  | .literal _ | .set _ => true
  | .repeated p least _ _ => least != 0 && p.neverEmpty
  | .group _ p => p.neverEmpty
  | .seq p q => p.neverEmpty || q.neverEmpty
  | .alt p q => p.neverEmpty && q.neverEmpty

def holdsNever : Pattern → Bool
  | .set s => s.isEmpty
  | .empty | .look _ | .literal _ => false
  | .repeated p _ _ _ | .group _ p => p.holdsNever
  | .seq p q | .alt p q => p.holdsNever || q.holdsNever

def atStart : Pattern → Bool
  | .look l => l = .textStart
  | .empty | .literal _ | .set _ => false
  | .repeated p least _ _ => least != 0 && p.atStart
  | .group _ p => p.atStart
  | .seq p q => p.atStart || (p.onlyEmpty && q.atStart)
  | .alt p q => p.atStart && q.atStart

def atEnd : Pattern → Bool
  | .look l => l = .textEnd
  | .empty | .literal _ | .set _ => false
  | .repeated p least _ _ => least != 0 && p.atEnd
  | .group _ p => p.atEnd
  | .seq p q => q.atEnd || (q.onlyEmpty && p.atEnd)
  | .alt p q => p.atEnd && q.atEnd

def allSets : Pattern → List CharSet
  | .set s => [s]
  | .empty | .literal _ | .look _ => []
  | .repeated p _ _ _ | .group _ p => p.allSets
  | .seq p q | .alt p q => p.allSets ++ q.allSets

def sets (p : Pattern) : List CharSet := p.allSets.eraseDups

def ofSet : CharSet → Pattern
  | [(low, high)] => if low = high then .literal [Char.ofNat low] else .set [(low, high)]
  | s => .set s

/-- What is repeated and can match the empty text only is needed once at most. -/
def times (p : Pattern) (least : Nat) (most : Option Nat) (greedy : Bool) : Pattern :=
  let (least, most) :=
    if p.onlyEmpty then (min least 1, some (min 1 (most.getD 1))) else (least, most)
  if least = 0 ∧ most = some 0 then .empty
  else if least = 1 ∧ most = some 1 then p
  else .repeated p least most greedy

def parts : Pattern → List Pattern
  | .empty => []
  | .seq p q => p.parts ++ q.parts
  | p => [p]

def joinLiterals : List Pattern → List Pattern
  | [] => []
  | .literal cs :: rest =>
    match joinLiterals rest with
    | .literal ds :: rest => .literal (cs ++ ds) :: rest
    | rest => .literal cs :: rest
  | p :: rest => p :: joinLiterals rest

def row : List Pattern → Pattern
  | [] => .empty
  | [p] => p
  | p :: rest => .seq p (row rest)

def sequence (ps : List Pattern) : Pattern := row (joinLiterals (ps.flatMap parts))

def alternatives : Pattern → List Pattern
  | .alt p q => p.alternatives ++ q.alternatives
  | p => [p]

def beside : List Pattern → Pattern
  | [] => .set []
  | [p] => p
  | p :: rest => .alt p (beside rest)

def char? : Pattern → Option Nat
  | .literal [c] => some c.toNat
  | _ => none

def set? : Pattern → Option CharSet
  | .set s => some s
  | _ => none

def commonPrefix : List Pattern → List Pattern → List Pattern
  | p :: ps, q :: qs => if p = q then p :: commonPrefix ps qs else []
  | _, _ => []

def sharedParts : List (List Pattern) → List Pattern
  | [] => []
  | row :: rows =>
    if (row :: rows).all (1 < ·.length) then rows.foldl commonPrefix row else []

def size : Pattern → Nat
  | .empty | .literal _ | .set _ | .look _ => 1
  | .repeated p _ _ _ | .group _ p => p.size + 1
  | .seq p q | .alt p q => p.size + q.size + 1

/-- A choice between alternatives. Each round takes one part at least from all of them. -/
def choiceWithin : Nat → List Pattern → Pattern
  | rounds, ps =>
    let ps := ps.flatMap alternatives
    if ps.length < 2 then beside ps
    else match ps.mapM char?, ps.mapM set? with
      | some points, _ => ofSet (.ofPoints points)
      | none, some sets => ofSet (.unions sets)
      | none, none =>
        let rows := ps.map parts
        match sharedParts rows, rounds with
        | [], _ | _, 0 => beside ps
        | shared, rounds + 1 =>
          let rest := rows.map fun r => sequence (r.drop shared.length)
          sequence (shared ++ [choiceWithin rounds rest])

def choice (ps : List Pattern) : Pattern :=
  choiceWithin (total (ps.map size)) ps

end Pattern
end NestedData.Regex
