import NestedData.Regex.Escape
/-!
Bracketed sets of characters. Items are united; nested brackets are items; intersection, difference
and symmetric difference bind from left to right. A closing bracket and hyphens at the start are
items, and so is a hyphen before the closing bracket.
-/

namespace NestedData.Regex

structure SetPart where
  set : CharSet
  depth : Nat := 0
  deriving Repr

inductive SetOp where
  | inter
  | diff
  | symmDiff
  deriving DecidableEq, Repr

/-- What has been begun around the items being read: an outer bracket, with the items before the
inner one, or an operator with its left side. -/
inductive Pending where
  | bracket (outer : List SetPart) (negated : Bool)
  | op (o : SetOp) (left : SetPart)
  deriving Repr

def uniteParts (items : List SetPart) : SetPart :=
  match items with
  | [] => ⟨[], 0⟩
  | [s] => s
  | items =>
    { set := .unions (items.map (·.set))
      depth := 1 + items.foldl (fun d s => max d s.depth) 0 }

def SetOp.apply (f : Flags) (o : SetOp) (a b : SetPart) : SetPart :=
  let l := f.closeCase a.set
  let r := f.closeCase b.set
  { set := match o with
      | .inter => l.inter r
      | .diff => l.diff r
      | .symmDiff => l.symmDiff r
    depth := 1 + max a.depth b.depth }

def closeOp (f : Flags) (right : SetPart) : List Pending → SetPart × List Pending
  | .op o left :: rest => (o.apply f left right, rest)
  | pending => (right, pending)

/-- A named class such as `[:alpha:]`, whose opening bracket has been read. Text that is none is
read as a nested bracket. -/
def namedClass? (cs : List Char) : Option (CharSet × Bool × List Char) :=
  match cs with
  | ':' :: rest =>
    let (negated, rest) := match rest with
      | '^' :: rest => (true, rest)
      | rest => (false, rest)
    let (name, rest) := rest.span (· != ':')
    match rest with
    | ':' :: ']' :: rest =>
      (CharSet.asciiClasses.find? fun c => c.1.toList = name).map fun c => (c.2, negated, rest)
    | _ => none
  | _ => none

def setItem? (f : Flags) : List Char → Option (Escaped × List Char)
  | [] => none
  | '\\' :: cs => escape? f cs
  | c :: cs => some (.char c false, cs)

def setChar? (f : Flags) : Escaped → Option Char
  | .char c _ => if f.unicode || c.toNat < 128 then some c else none
  | _ => none

def peekPast (f : Flags) (cs : List Char) : Option Char :=
  if !f.verbose then cs.head?
  else
    match cs.dropWhile isBlankChar with
    | '#' :: rest => (rest.dropWhile isBlankChar).head?.or cs.head?
    | rest => rest.head?.or cs.head?

def setRange? (f : Flags) (cs : List Char) : Option (SetPart × List Char) := do
  let (first, rest) ← setItem? f cs
  let single : Option (SetPart × List Char) :=
    match first with
    | .set s => some (⟨s, 0⟩, f.skip rest)
    | .look _ => none
    | e => (setChar? f e).map fun c => (⟨.ofChar c, 0⟩, f.skip rest)
  match f.skip rest with
  | [] => none
  | '-' :: after =>
    if peekPast f after = some ']' || peekPast f after = some '-' then single
    else
      let (last, rest) ← setItem? f (f.skip after)
      let a ← setChar? f first
      let b ← setChar? f last
      if a.toNat ≤ b.toNat then some (⟨[(a.toNat, b.toNat)], 0⟩, rest) else none
  | _ => single

def openBracket? (f : Flags) (cs : List Char) : Option (Bool × List SetPart × List Char) :=
  let (negated, cs) := match f.skip cs with
    | '^' :: rest => (true, f.skip rest)
    | cs => (false, cs)
  let (hyphens, cs) := f.gather (· = '-') cs
  match hyphens, cs with
  | _, [] => none
  | [], ']' :: rest =>
    if f.skip rest = [] then none else some (negated, [⟨.ofChar ']', 0⟩], f.skip rest)
  | hyphens, cs => some (negated, hyphens.map fun c => ⟨.ofChar c, 0⟩, cs)

/-- Reads a bracketed set, from its opening bracket on. Each round takes a character at least. -/
def bracketFrom? (f : Flags) : Nat → List Pending → List SetPart → List Char →
    Option (SetPart × List Char)
  | 0, _, _, _ => none
  | fuel + 1, pending, items, cs =>
    let op (o : SetOp) (rest : List Char) :=
      let (left, pending) := closeOp f (uniteParts items) pending
      bracketFrom? f fuel (.op o left :: pending) [] rest
    match f.skip cs with
    | [] => none
    | '[' :: rest =>
      match (if pending.isEmpty then none else namedClass? rest) with
      | some (s, negated, rest) =>
        if negated && !f.unicode then none
        else
          let s := f.closeCase s
          bracketFrom? f fuel pending (⟨if negated then s.compl else s, 0⟩ :: items) rest
      | none =>
        (openBracket? f rest).bind fun (negated, first, rest) =>
          bracketFrom? f fuel (.bracket items negated :: pending) first rest
    | ']' :: rest =>
      match closeOp f (uniteParts items) pending with
      | (s, .bracket outer negated :: pending) =>
        if negated && !f.unicode then none
        else
          let closed := f.closeCase s.set
          let part : SetPart := ⟨if negated then closed.compl else closed, 1 + s.depth⟩
          if pending.isEmpty then some (part, rest)
          else bracketFrom? f fuel pending (part :: outer) rest
      | _ => none
    | '&' :: '&' :: rest => op .inter rest
    | '-' :: '-' :: rest => op .diff rest
    | '~' :: '~' :: rest => op .symmDiff rest
    | cs =>
      (setRange? f cs).bind fun (part, rest) => bracketFrom? f fuel pending (part :: items) rest

def bracket? (f : Flags) (cs : List Char) : Option (SetPart × List Char) :=
  bracketFrom? f (cs.length + 1) [] [] cs

end NestedData.Regex
