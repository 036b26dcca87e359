import NestedData.Regex.Encoded
/-!
The room of a pattern. A pattern is put into an automaton over bytes that finds where a match ends,
and into another one that reads backward and finds where it begins. Neither may take more than ten
mebibytes. The automata are counted here and not built.

A state takes 32 bytes. A transition of a state that has several takes 8 bytes more, and a branch to
another state 4. States are numbered in the order they are made. States that were made for a set of
characters are used again for other ranges of bytes of the same set so long as they are remembered;
they are remembered in a table of fixed size, in which a later one may take the place of an earlier.
-/

namespace NestedData.Regex

structure Step where
  low : Nat
  high : Nat
  next : Nat
  deriving DecidableEq, Repr

structure Remembered where
  steps : List Step
  state : Nat
  deriving DecidableEq, Repr

/-- The count of an automaton while it is put together. `branching` tells whether the last part ends
in a branch, so that joining another part to it takes one branch more. -/
structure Tally where
  states : Nat := 0
  extra : Nat := 0
  branching : Bool := false
  memory : Array (Option Remembered)

def roomLimit : Nat := 10 * 0x100000

namespace Tally

def room (t : Tally) : Nat := 32 * t.states + t.extra

def isFull (t : Tally) : Bool := roomLimit < t.room

def add (t : Tally) (states extra : Nat) : Tally :=
  { t with states := t.states + states, extra := t.extra + extra, branching := false }

def join (t : Tally) : Tally := t.add 0 (if t.branching then 4 else 0)

def branch (t : Tally) : Tally := { t with branching := true }

def iterate (f : Tally → Tally) : Nat → Tally → Tally
  | 0, t => t
  | n + 1, t => if t.isFull then t else iterate f n (f t)

/-! Places in the memory follow a multiplicative hash of 64 bits. -/

def hashStart : UInt64 := 14695981039346656037

def hashNext (h : UInt64) (n : Nat) : UInt64 := (h ^^^ n.toUInt64) * 1099511628211

def forwardHash (steps : List Step) : UInt64 :=
  steps.foldl (fun h s => hashNext (hashNext (hashNext h s.low) s.high) s.next) hashStart

def backwardHash (s : Step) : UInt64 :=
  hashNext (hashNext (hashNext hashStart s.next) s.low) s.high

/-- The state with some transitions, made after the state `since`: a remembered one, or a new one
that takes so many bytes more. -/
def stateFor (t : Tally) (since : Nat) (hash : UInt64) (steps : List Step) (extra : Nat) :
    Nat × Tally :=
  let place := (hash % t.memory.size.toUInt64).toNat
  let known := match t.memory[place]? with
    | some (some r) => if since < r.state && r.steps = steps then some r.state else none
    | _ => none
  match known with
  | some state => (state, t)
  | none =>
    let state := t.states
    (state, { t with
      states := state + 1
      extra := t.extra + extra
      memory := t.memory.setIfInBounds place (some ⟨steps, state⟩) })

/-! Reading forward, the sequences of a set, in ascending order, make a tree whose nodes are turned
into states as soon as no later sequence can add to them. -/

/-- A node that is not yet a state: its transitions, last first, and the bytes of the one that is
still being followed. -/
structure Node where
  steps : List Step := []
  followed : Option Unicode.ByteRange := none
  deriving Repr

def Node.stepsTo (n : Node) (next : Nat) : List Step :=
  match n.followed with
  | some r => ⟨r.low, r.high, next⟩ :: n.steps
  | none => n.steps

def close (target : Nat) (n : Node) (next : Nat) (t : Tally) : Nat × Tally :=
  let steps := (n.stepsTo next).reverse
  t.stateFor target (forwardHash steps) steps (8 * steps.length)

def closeAll (target : Nat) (nodes : List Node) (t : Tally) : Nat × Tally :=
  nodes.foldr (fun n r => close target n r.1 r.2) (target, t)

/-- Adds a sequence to the tree: follows it as far as the sequence before it was the same, turns the
nodes below into states, and hangs on nodes for the rest. -/
def addSequence (target : Nat) :
    List Node → List Unicode.ByteRange → Tally → List Node × Tally
  | n :: below, r :: rest, t =>
    if n.followed = some r then
      let (below, t) := addSequence target below rest t
      (n :: below, t)
    else
      let (next, t) := closeAll target below t
      (⟨n.stepsTo next, some r⟩ :: rest.map fun r => ⟨[], some r⟩, t)
  | nodes, _, t => (nodes, t)

def forwardSet (sequences : List (List Unicode.ByteRange)) (t : Tally) : Tally :=
  let target := t.states
  let (nodes, t) := sequences.foldl (fun r s => addSequence target r.1 s r.2)
    ([({} : Node)], t.add 1 0)
  (closeAll target nodes t).2

def backwardSequence (target : Nat) (sequence : List Unicode.ByteRange) (t : Tally) : Tally :=
  (sequence.foldl (fun r b =>
    let step : Step := ⟨b.low, b.high, r.1⟩
    r.2.stateFor target (backwardHash step) [step] 0) (target, t)).2

def backwardSet (sequences : List (List Unicode.ByteRange)) (t : Tally) : Tally :=
  let target := t.states + 1
  sequences.foldl (fun t s => backwardSequence target s t) (t.add 2 (4 * sequences.length))

end Tally

/-- Counts a pattern: joins its parts, and adds what each of them takes. -/
def Encoded.count (backward : Bool) : Encoded → Tally → Tally
  | .word bytes, t => t.add bytes.length 0
  | .fixed states extra, t => t.add states extra
  | .ranges sequences, t =>
    if t.isFull then t
    else if backward then Tally.backwardSet sequences t
    else Tally.forwardSet sequences t
  | .group p, t => (p.count backward (t.add 1 0)).join.add 1 0
  | .seq p q, t => q.count backward (p.count backward t).join
  | .alt p q, t => (q.count backward (p.count backward t).join).join.add 2 8
  | .altNext p q, t => (q.count backward (p.count backward t).join).join.add 0 4
  | .repeated p 0 (some 1) _, t => (p.count backward (t.add 1 0)).join.add 1 8
  | .repeated p 0 none true, t => ((p.count backward (t.add 1 0)).join.add 0 4).branch
  | .repeated p 0 none false, t => (p.count backward t).join.add 3 16
  | .repeated p (least + 1) none _, t =>
    let copies := Tally.iterate (fun t => p.count backward t.join) least (p.count backward t)
    (copies.join.add 1 4).branch
  | .repeated p least (some most) _, t =>
    let copies := match least with
      | 0 => t.add 1 0
      | n + 1 => Tally.iterate (fun t => p.count backward t.join) n (p.count backward t)
    if most ≤ least then copies
    else
      Tally.iterate (fun t => (p.count backward (t.add 1 8)).join) (most - least)
        (copies.join.add 1 0)

def Tally.begin (anchored : Bool) (remembered : Nat) : Tally :=
  let t : Tally := { memory := Array.replicate remembered none }
  if anchored then t.add 1 0 else t.add 3 16

namespace Pattern

def forwardTally (known : Encoded.Sequences) (p : Pattern) : Tally :=
  let whole := Encoded.group (.ofPattern known false p)
  (whole.count false (.begin p.atStart 10000)).add 1 0

def backwardTally (known : Encoded.Sequences) (p : Pattern) : Tally :=
  let whole := Encoded.ofPattern known true p
  (whole.count true (.begin p.atEnd 1000)).join.add 1 0

def fits (p : Pattern) : Bool :=
  let known := p.sets.map fun s => (s, s.byteSequences)
  !(p.forwardTally known).isFull && !(p.backwardTally known).isFull

end Pattern
end NestedData.Regex
