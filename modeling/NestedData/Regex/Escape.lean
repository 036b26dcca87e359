import NestedData.Regex.Look
import NestedData.Text.Hex
import NestedData.Unicode.Property
/-!
Flags, blanks and escapes in the text of a pattern. Under the verbose flag blanks and comments
between the parts of a pattern mean nothing. What follows a backslash is a character, a set of
characters or a condition on the position; letters and digits stand for nothing but what is listed.
-/

namespace NestedData.Regex

structure Flags where
  ignoreCase : Bool := false
  multiLine : Bool := false
  dotAll : Bool := false
  anyLineEnd : Bool := false
  unicode : Bool := true
  verbose : Bool := false
  swapGreed : Bool := false
  deriving DecidableEq, Repr

def isBlankChar (c : Char) : Bool := Unicode.blanks.holds c.toNat

def skipBlanks (inComment : Bool) : List Char → List Char
  | [] => []
  | c :: cs =>
    if inComment then skipBlanks (c != '\n') cs
    else if isBlankChar c then skipBlanks false cs
    else if c = '#' then skipBlanks true cs
    else c :: cs

def Flags.skip (f : Flags) (cs : List Char) : List Char :=
  if f.verbose then skipBlanks false cs else cs

/-- The characters of a kind at the start of the text, and what follows. Under the verbose flag
blanks and comments before, between and after them are left out. -/
def gather (verbose : Bool) (p : Char → Bool) (inComment : Bool) :
    List Char → List Char × List Char
  | [] => ([], [])
  | c :: cs =>
    if inComment then gather verbose p (c != '\n') cs
    else if verbose && isBlankChar c then gather verbose p false cs
    else if verbose && c = '#' then gather verbose p true cs
    else if p c then ((gather verbose p false cs).map (c :: ·) id)
    else ([], c :: cs)

def Flags.gather (f : Flags) (p : Char → Bool) (cs : List Char) : List Char × List Char :=
  Regex.gather f.verbose p false cs

/-- What an escape stands for. An octet is a character given by two hexadecimal digits. -/
inductive Escaped where
  | char (c : Char) (octet : Bool)
  | set (s : CharSet)
  | look (l : Look)
  deriving Repr

def isMeta (c : Char) : Bool := "\\.+*?()|[]\x7b\x7d^$#&-~".toList.contains c

def isEscapable (c : Char) : Bool :=
  c.toNat < 128 && !c.isAlphanum && c != '<' && c != '>'

def charOf? (digits : List Char) : Option Char :=
  let n := digits.foldl (fun n d => 16 * n + (Text.hexValue? d).getD 0) 0
  if n < 0x110000 && !(0xD800 ≤ n && n < 0xE000) then some (Char.ofNat n) else none

def isHex (c : Char) : Bool := (Text.hexValue? c).isSome

def hexDigits? (f : Flags) : Nat → List Char → Option (List Char × List Char)
  | 0, cs => some ([], cs)
  | n + 1, c :: cs =>
    if isHex c then (hexDigits? f n (f.skip cs)).map fun r => (c :: r.1, r.2) else none
  | _ + 1, [] => none

def hexEscape? (f : Flags) (count : Nat) (cs : List Char) : Option (Escaped × List Char) :=
  match f.skip cs with
  | '\x7b' :: rest =>
    match f.gather isHex rest with
    | (d :: ds, '\x7d' :: rest) => (charOf? (d :: ds)).map fun c => (.char c false, f.skip rest)
    | _ => none
  | cs => do
    let (ds, rest) ← hexDigits? f count cs
    let c ← charOf? ds
    return (.char c (count = 2), rest)

def cutAt? (separator : List Char) : List Char → Option (List Char × List Char)
  | [] => none
  | c :: cs =>
    if separator.isPrefixOf (c :: cs) then some ([], (c :: cs).drop separator.length)
    else (cutAt? separator cs).map fun r => (c :: r.1, r.2)

def propertyOf? (content : List Char) : Option (CharSet × Bool) :=
  match cutAt? ['!', '='] content with
  | some (name, value) => (Unicode.valueNamed? name value).map (·, true)
  | none =>
    match (cutAt? [':'] content).or (cutAt? ['='] content) with
    | some (name, value) => (Unicode.valueNamed? name value).map (·, false)
    | none => (Unicode.propertyNamed? content).map (·, false)

def Flags.closeCase (f : Flags) (s : CharSet) : CharSet :=
  if !f.ignoreCase then s else if f.unicode then s.anyCase else s.anyAsciiCase

def Flags.charSet (f : Flags) (c : Char) : CharSet :=
  if !f.ignoreCase then .ofChar c
  else if f.unicode then .ofPoints (Unicode.caseVariants c.toNat)
  else .ofPoints (CharSet.asciiVariants c.toNat)

def propertyEscape? (f : Flags) (negated : Bool) (cs : List Char) : Option (Escaped × List Char) :=
  let finish (s : CharSet) (negated : Bool) (rest : List Char) :=
    if f.unicode then
      let s := f.closeCase s
      some (Escaped.set (if negated then s.compl else s), rest)
    else none
  match f.skip cs with
  | [] => none
  | '\x7b' :: rest =>
    match f.gather (· != '\x7d') rest with
    | (content, '\x7d' :: rest) =>
      (propertyOf? content).bind fun (s, unequal) => finish s (negated != unequal) rest
    | _ => none
  | '\\' :: _ => none
  | c :: rest => (Unicode.propertyNamed? [c]).bind fun s => finish s negated (f.skip rest)

/-- The sets of digits, blanks and word characters; without the unicode flag they are those of
ASCII, and their complements are not sets of characters. -/
def classEscape? (f : Flags) (s ascii : CharSet) (negated : Bool) : Option Escaped :=
  if f.unicode then some (.set (if negated then s.compl else s))
  else if negated then none
  else some (.set ascii)

def boundaryEscape? (f : Flags) (cs : List Char) : Option (Escaped × List Char) :=
  let plain := some (Escaped.look (.boundary f.unicode), cs)
  match cs with
  | '\x7b' :: rest =>
    match f.skip rest with
    | [] => none
    | c :: rest' =>
      if c.isAlpha || c = '-' then
        match f.gather (fun c => c.isAlpha || c = '-') (c :: rest') with
        | (name, '\x7d' :: rest) =>
          if name = "start".toList then some (.look (.wordStart f.unicode), rest)
          else if name = "end".toList then some (.look (.wordEnd f.unicode), rest)
          else if name = "start-half".toList then some (.look (.notAfterWord f.unicode), rest)
          else if name = "end-half".toList then some (.look (.notBeforeWord f.unicode), rest)
          else none
        | _ => none
      else plain
  | _ => plain

def escape? (f : Flags) : List Char → Option (Escaped × List Char)
  | [] => none
  | c :: cs =>
    let char (n : Nat) := some (Escaped.char (Char.ofNat n) false, cs)
    let look (l : Look) := some (Escaped.look l, cs)
    if isMeta c || isEscapable c then some (.char c false, cs)
    else match c with
      | 'x' => hexEscape? f 2 cs
      | 'u' => hexEscape? f 4 cs
      | 'U' => hexEscape? f 8 cs
      | 'p' => propertyEscape? f false cs
      | 'P' => propertyEscape? f true cs
      | 'd' => (classEscape? f Unicode.digits CharSet.asciiDigit false).map (·, cs)
      | 'D' => (classEscape? f Unicode.digits CharSet.asciiDigit true).map (·, cs)
      | 's' => (classEscape? f Unicode.blanks CharSet.asciiBlank false).map (·, cs)
      | 'S' => (classEscape? f Unicode.blanks CharSet.asciiBlank true).map (·, cs)
      | 'w' => (classEscape? f Unicode.words CharSet.asciiWord false).map (·, cs)
      | 'W' => (classEscape? f Unicode.words CharSet.asciiWord true).map (·, cs)
      | 'a' => char 0x07
      | 'f' => char 0x0C
      | 't' => char 0x09
      | 'n' => char 0x0A
      | 'r' => char 0x0D
      | 'v' => char 0x0B
      | 'A' => look .textStart
      | 'z' => look .textEnd
      | 'b' => boundaryEscape? f cs
      | 'B' => look (.notBoundary f.unicode)
      | '<' => look (.wordStart f.unicode)
      | '>' => look (.wordEnd f.unicode)
      | _ => none

end NestedData.Regex
