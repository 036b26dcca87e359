/-!
Delimited patterns such as `/body/flags`. A text that begins with a delimiter, holds it again and
ends in flags after the last one stands for its body, with the flags written in front; any other
text stands for itself.
-/

namespace NestedData.Regex

def delimiters : List Char := ['/', '#', '~', '%', '@', '!', ';', ',']

def inlineFlags : List Char := ['i', 'm', 's', 'x', 'U']

def idleFlag : Char := 'u'

/-- The text before and after the last occurrence of a character. -/
def cutLast? (d : Char) : List Char → Option (List Char × List Char)
  | [] => none
  | c :: cs =>
    match cutLast? d cs with
    | some (before, after) => some (c :: before, after)
    | none => if c = d then some ([], cs) else none

/-- The flags without repetitions and idle ones, or none if another letter is among them. -/
def flagsOf? (seen : List Char) : List Char → Option (List Char)
  | [] => some []
  | c :: cs =>
    if c ∈ inlineFlags then
      if c ∈ seen then flagsOf? seen cs else (flagsOf? (c :: seen) cs).map (c :: ·)
    else if c = idleFlag then flagsOf? seen cs
    else none

def withFlags (flags body : List Char) : List Char :=
  if flags.isEmpty then body else ['(', '?'] ++ flags ++ ')' :: body

def undelimitedChars? : List Char → Option (List Char)
  | [] => none
  | d :: cs =>
    if d ∈ delimiters then do
      let (body, flags) ← cutLast? d cs
      let flags ← flagsOf? [] flags
      return withFlags flags body
    else none

/-- The pattern text that a possibly delimited text stands for. -/
def undelimited (text : String) : String :=
  match undelimitedChars? text.toList with
  | some cs => String.ofList cs
  | none => text

end NestedData.Regex
