import NestedData.Number.Literal
import NestedData.Text.Hex
/-!
The tokens of JSON text. Words are maximal runs without blanks, quotes and marks; which of them are
numbers or constants is decided later. Strings are unescaped here, and one that holds an unpaired
surrogate stands for no text.
-/

namespace NestedData.Json

inductive Token where
  | openObject
  | closeObject
  | openArray
  | closeArray
  | colon
  | comma
  | text (content : Option String)
  | word (chars : List Char)
  deriving DecidableEq, Repr

namespace Token

def isBlank (c : Char) : Bool := c = ' ' || c = '\t' || c = '\n' || c = '\r'

def mark? (c : Char) : Option Token :=
  if c = '\x7b' then some .openObject
  else if c = '\x7d' then some .closeObject
  else if c = '[' then some .openArray
  else if c = ']' then some .closeArray
  else if c = ':' then some .colon
  else if c = ',' then some .comma
  else none

/-- A piece of a string: a character, or a 16-bit unit given by its number. -/
inductive Piece where
  | char (c : Char)
  | unit (n : Nat)
  deriving DecidableEq, Repr

def isHighSurrogate (n : Nat) : Bool := 0xD800 ≤ n && n < 0xDC00
def isLowSurrogate (n : Nat) : Bool := 0xDC00 ≤ n && n < 0xE000

/-- The characters that the pieces spell; surrogates count in pairs only. -/
def spell : List Piece → Option (List Char)
  | [] => some []
  | .char c :: rest => (spell rest).map (c :: ·)
  | [.unit n] =>
    if isHighSurrogate n || isLowSurrogate n then none else some [Char.ofNat n]
  | .unit n :: .char c :: rest =>
    if isHighSurrogate n || isLowSurrogate n then none
    else (spell rest).map fun cs => Char.ofNat n :: c :: cs
  | .unit n :: .unit m :: rest =>
    if isHighSurrogate n then
      if isLowSurrogate m then
        (spell rest).map (Char.ofNat (0x10000 + (n - 0xD800) * 0x400 + (m - 0xDC00)) :: ·)
      else none
    else if isLowSurrogate n then none
    else (spell (.unit m :: rest)).map (Char.ofNat n :: ·)

def unescape? (c : Char) : Option Char :=
  if c = '"' || c = '\\' || c = '/' then some c
  else if c = 'b' then some (Char.ofNat 8)
  else if c = 'f' then some (Char.ofNat 12)
  else if c = 'n' then some '\n'
  else if c = 'r' then some '\r'
  else if c = 't' then some '\t'
  else none

/-- Where the scanner stands; what it has gathered is held last first. -/
inductive Mode where
  | between
  | inWord (gathered : List Char)
  | inText (gathered : List Piece)
  | afterBackslash (gathered : List Piece)
  | inUnit (gathered : List Piece) (value : Nat) (missing : Nat)

def ofPieces (gathered : List Piece) : Token :=
  .text ((spell gathered.reverse).map String.ofList)

def scan : Mode → List Char → Option (List Token)
  | .between, [] => some []
  | .inWord w, [] => some [.word w.reverse]
  | .inText _, [] => none
  | .afterBackslash _, [] => none
  | .inUnit .., [] => none
  | .between, c :: cs =>
    if isBlank c then scan .between cs
    else if c = '"' then scan (.inText []) cs
    else match mark? c with
      | some t => (scan .between cs).map (t :: ·)
      | none => scan (.inWord [c]) cs
  | .inWord w, c :: cs =>
    if isBlank c then (scan .between cs).map (.word w.reverse :: ·)
    else if c = '"' then (scan (.inText []) cs).map (.word w.reverse :: ·)
    else match mark? c with
      | some t => (scan .between cs).map fun ts => .word w.reverse :: t :: ts
      | none => scan (.inWord (c :: w)) cs
  | .inText ps, c :: cs =>
    if c = '"' then (scan .between cs).map (ofPieces ps :: ·)
    else if c = '\\' then scan (.afterBackslash ps) cs
    else if c.toNat < 32 then none
    else scan (.inText (.char c :: ps)) cs
  | .afterBackslash ps, c :: cs =>
    if c = 'u' then scan (.inUnit ps 0 4) cs
    else match unescape? c with
      | some d => scan (.inText (.char d :: ps)) cs
      | none => none
  | .inUnit ps n missing, c :: cs =>
    match Text.hexValue? c with
    | none => none
    | some d =>
      if missing ≤ 1 then scan (.inText (.unit (16 * n + d) :: ps)) cs
      else scan (.inUnit ps (16 * n + d) (missing - 1)) cs

end Token

def digits (text : List Char) : List Char × List Char := text.span Char.isDigit

def fraction? : List Char → Option (List Char × List Char)
  | '.' :: rest =>
    match digits rest with
    | ([], _) => none
    | (ds, rest) => some (ds, rest)
  | rest => some ([], rest)

def exponentValue (negative : Bool) (ds : List Char) : Int :=
  let n : Int := (ds.foldl (fun n d => 10 * n + Number.digitValue d) 0 : Nat)
  if negative then -n else n

def exponent? : List Char → Option (Option Int)
  | [] => some none
  | c :: rest =>
    if c = 'e' ∨ c = 'E' then
      let (negative, rest) := match rest with
        | '-' :: rest => (true, rest)
        | '+' :: rest => (false, rest)
        | rest => (false, rest)
      match digits rest with
      | (d :: ds, []) => some (some (exponentValue negative (d :: ds)))
      | _ => none
    else none

/-- Reads a word as a number: no needless zero in front, and digits on both sides of a point. -/
def number? (word : List Char) : Option NumberLiteral := do
  let (negative, rest) := match word with
    | '-' :: rest => (true, rest)
    | rest => (false, rest)
  let (whole, rest) := digits rest
  match whole with
  | [] => none
  | '0' :: _ :: _ => none
  | _ =>
    let (fraction, rest) ← fraction? rest
    let exponent ← exponent? rest
    return { negative, whole, fraction, exponent }

end NestedData.Json
