import NestedData.Regex.Automaton
import NestedData.Regex.Bracket
import NestedData.Regex.Laid
import NestedData.Unicode.Recent
/-!
Reading patterns. The reader keeps the alternatives and parts of the innermost open group and, for
each group around it, what was read there before it was opened; flags hold to the end of the group
they are set in. Patterns that nest too deep or repeat too much are refused.
-/

namespace NestedData.Regex

/-- A part of a pattern with the depth of nesting in its text. Settings of flags are parts that
cannot be repeated. -/
structure Part where
  pattern : Pattern
  depth : Nat := 0
  setting : Bool := false
  deriving Repr

/-- What was read around a group before it was opened: alternatives and parts, last first. A group
whose match could be asked for has an index. -/
structure Group where
  index : Option Nat
  flags : Flags
  alternatives : List Part
  parts : List Part
  deriving Repr

structure Reading where
  flags : Flags := {}
  indexed : Nat := 0
  names : List (List Char) := []
  alternatives : List Part := []
  parts : List Part := []
  groups : List Group := []
  deriving Repr

def deepest (parts : List Part) : Nat := parts.foldl (fun d p => max d p.depth) 0

def inSequence (parts : List Part) : Part :=
  match parts with
  | [p] => ⟨p.pattern, p.depth, false⟩
  | parts =>
    let depth := if parts.isEmpty then 0 else 1 + deepest parts
    ⟨.sequence (parts.reverse.map (·.pattern)), depth, false⟩

def oneOf (alternatives : List Part) : Part :=
  match alternatives with
  | [p] => p
  | alternatives =>
    ⟨.choice (alternatives.reverse.map (·.pattern)), 1 + deepest alternatives, false⟩

namespace Reading

def push (r : Reading) (p : Part) : Reading := { r with parts := p :: r.parts }

def pushSet (r : Reading) (s : CharSet) : Reading := r.push { pattern := .ofSet s }
def pushLook (r : Reading) (l : Look) : Reading := r.push { pattern := .look l }
def pushChar (r : Reading) (c : Char) : Reading := r.pushSet (r.flags.charSet c)

def body (r : Reading) : Part := oneOf (inSequence r.parts :: r.alternatives)

def openGroup (r : Reading) (index : Option Nat) (flags : Flags) : Reading :=
  { r with
    flags
    groups := ⟨index, r.flags, r.alternatives, r.parts⟩ :: r.groups
    alternatives := []
    parts := [] }

def openIndexed (r : Reading) : Reading :=
  let index := r.indexed + 1
  { r with indexed := index }.openGroup (some index) r.flags

def closeGroup? (r : Reading) : Option Reading :=
  match r.groups with
  | [] => none
  | g :: groups =>
    let b := r.body
    let pattern := match g.index with
      | some index => .group index b.pattern
      | none => b.pattern
    some { r with
      flags := g.flags
      groups
      alternatives := g.alternatives
      parts := ⟨pattern, b.depth + 1, false⟩ :: g.parts }

def nextAlternative (r : Reading) : Reading :=
  { r with alternatives := inSequence r.parts :: r.alternatives, parts := [] }

/-- Repeats the last part. A question mark after the bounds asks for as few rounds as can be. -/
def repeatLast? (r : Reading) (least : Nat) (most : Option Nat) (rest : List Char) :
    Option (Reading × List Char) :=
  match r.parts with
  | [] => none
  | p :: parts =>
    if p.setting then none
    else
      let (few, rest) := match rest with
        | '?' :: rest => (true, rest)
        | rest => (false, rest)
      let pattern := p.pattern.times least most (few == r.flags.swapGreed)
      some ({ r with parts := ⟨pattern, p.depth + 1, false⟩ :: parts }, rest)

end Reading

def Flags.with? (f : Flags) (c : Char) (on : Bool) : Option Flags :=
  match c with
  | 'i' => some { f with ignoreCase := on }
  | 'm' => some { f with multiLine := on }
  | 's' => some { f with dotAll := on }
  | 'R' => some { f with anyLineEnd := on }
  | 'u' => some { f with unicode := on }
  | 'x' => some { f with verbose := on }
  | 'U' => some { f with swapGreed := on }
  | _ => none

/-- Reads flags up to a colon or a closing parenthesis, which comes second. No flag occurs twice,
and a minus, after which flags are switched off, occurs once and not last. -/
def flagsFrom? (f : Flags) (on : Bool) (seen : List Char) :
    List Char → Option (Flags × Char × List Char)
  | [] => none
  | c :: cs =>
    if c = ':' || c = ')' then if seen.head? = some '-' then none else some (f, c, cs)
    else if seen.contains c then none
    else if c = '-' then flagsFrom? f false (c :: seen) cs
    else (f.with? c on).bind fun f => flagsFrom? f on (c :: seen) cs

def isNameStart (c : Char) : Bool := c = '_' || Unicode.isLetter c.toNat
def isNameChar (c : Char) : Bool :=
  isNameStart c || Unicode.isNumber c.toNat || c = '.' || c = '[' || c = ']'

def groupName? (cs : List Char) : Option (List Char × List Char) :=
  match cs.span (· != '>') with
  | (c :: name, '>' :: rest) =>
    if isNameStart c && name.all isNameChar then some (c :: name, rest) else none
  | _ => none

def isLookAround : List Char → Bool
  | '?' :: '=' :: _ | '?' :: '!' :: _ => true
  | '?' :: '<' :: '=' :: _ | '?' :: '<' :: '!' :: _ => true
  | _ => false

def openNamed? (r : Reading) (cs : List Char) : Option (Reading × List Char) :=
  (groupName? cs).bind fun (name, rest) =>
    if r.names.contains name then none
    else some ({ r with names := name :: r.names }.openIndexed, rest)

def groupFrom? (r : Reading) (cs : List Char) : Option (Reading × List Char) :=
  if isLookAround cs then none
  else match cs with
    | '?' :: 'P' :: '<' :: rest => openNamed? r rest
    | '?' :: '<' :: rest => openNamed? r rest
    | '?' :: rest =>
      (flagsFrom? r.flags true [] rest).bind fun (flags, last, after) =>
        if last = ':' then some (r.openGroup none flags, after)
        else if rest.head? = some ')' then none
        else some ({ r with flags }.push ⟨.empty, 0, true⟩, after)
    | cs => some (r.openIndexed, cs)

def count? (f : Flags) (cs : List Char) : Option (Option Nat × List Char) :=
  let (ds, rest) := f.gather Char.isDigit (cs.dropWhile isBlankChar)
  let rest := f.skip (rest.dropWhile isBlankChar)
  match ds with
  | [] => some (none, rest)
  | ds =>
    let n := ds.foldl (fun n d => 10 * n + (d.toNat - '0'.toNat)) 0
    if n < 0x100000000 then some (some n, rest) else none

def bounds? (f : Flags) (cs : List Char) : Option (Nat × Option Nat × List Char) := do
  let (least, rest) ← count? f (f.skip cs)
  match least, rest with
  | some n, '\x7d' :: rest => some (n, some n, f.skip rest)
  | some n, ',' :: rest =>
    match f.skip rest with
    | '\x7d' :: rest => some (n, none, f.skip rest)
    | rest =>
      let (most, rest) ← count? f rest
      match most, rest with
      | some m, '\x7d' :: rest => if n ≤ m then some (n, some m, f.skip rest) else none
      | _, _ => none
  | _, _ => none

def lineStart (f : Flags) : Look :=
  if !f.multiLine then .textStart else if f.anyLineEnd then .anyLineStart else .lineStart

def lineEnd (f : Flags) : Look :=
  if !f.multiLine then .textEnd else if f.anyLineEnd then .anyLineEnd else .lineEnd

def dot? (f : Flags) : Option CharSet :=
  if !f.unicode then none
  else if f.dotAll then some .full
  else if f.anyLineEnd then some (Unicode.CodeRanges.ofPoints [0x0A, 0x0D]).compl
  else some (CharSet.ofChar '\n').compl

def escaped? (r : Reading) (cs : List Char) : Option (Reading × List Char) :=
  (escape? r.flags cs).bind fun (e, rest) =>
    match e with
    | .set s => some (r.pushSet s, rest)
    | .look l => some (r.pushLook l, rest)
    | .char c octet =>
      if octet && !r.flags.unicode && 128 ≤ c.toNat then none else some (r.pushChar c, rest)

/-- Reads what a character begins; `cs` is the text after it. -/
def Reading.step? (r : Reading) (c : Char) (cs : List Char) : Option (Reading × List Char) :=
  match c with
  | '(' => groupFrom? r (r.flags.skip cs)
  | ')' => r.closeGroup?.map (·, cs)
  | '|' => some (r.nextAlternative, cs)
  | '[' =>
    (bracket? r.flags ('[' :: cs)).map fun (s, rest) =>
      (r.push ⟨.ofSet s.set, s.depth, false⟩, rest)
  | '?' => r.repeatLast? 0 (some 1) cs
  | '*' => r.repeatLast? 0 none cs
  | '+' => r.repeatLast? 1 none cs
  | '\x7b' =>
    (bounds? r.flags cs).bind fun (least, most, rest) => r.repeatLast? least most rest
  | '\\' => escaped? r cs
  | '.' => (dot? r.flags).map fun s => (r.pushSet s, cs)
  | '^' => some (r.pushLook (lineStart r.flags), cs)
  | '$' => some (r.pushLook (lineEnd r.flags), cs)
  | c => some (r.pushChar c, cs)

def Reading.run? : Nat → Reading → List Char → Option Reading
  | fuel, r, cs =>
    match r.flags.skip cs, fuel with
    | [], _ => some r
    | _ :: _, 0 => none
    | c :: cs, fuel + 1 => (r.step? c cs).bind fun (r, rest) => Reading.run? fuel r rest

def nestLimit : Nat := 250

def Pattern.ofText? (text : String) : Option Pattern :=
  let cs := text.toList
  (Reading.run? cs.length {} cs).bind fun r =>
    let whole := r.body
    if r.groups.isEmpty && whole.depth ≤ nestLimit && whole.pattern.fits then
      some whole.pattern
    else none

end NestedData.Regex
