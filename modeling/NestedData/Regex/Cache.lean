import NestedData.Dict
import NestedData.Regex.Engine
/-!
A cache of compiled patterns under the texts they were asked for by. It is bounded: once it is full,
further patterns are compiled and not kept. Nothing is ever dropped, and texts that are no pattern
are not kept.
-/

namespace NestedData.Regex

structure Cache (P : Type) where
  entries : List (String × P) := []
  deriving Repr

namespace Cache

variable {P : Type}

def capacity : Nat := 32

def size (c : Cache P) : Nat := c.entries.length

def isEmpty (c : Cache P) : Bool := c.entries.isEmpty

/-- The pattern of a text, and the cache after the request. What is compiled is what the text stands
for; it is kept under the text itself. -/
def request (compile? : String → Option P) (c : Cache P) (text : String) : Option P × Cache P :=
  match Dict.get? text c.entries with
  | some p => (some p, c)
  | none =>
    match compile? (undelimited text) with
    | none => (none, c)
    | some p =>
      (some p, if c.size < capacity then ⟨Dict.insert text p c.entries⟩ else c)

def requests (compile? : String → Option P) (c : Cache P) :
    List String → List (Option P) × Cache P
  | [] => ([], c)
  | text :: rest =>
    let (answer, c) := c.request compile? text
    let (answers, c) := c.requests compile? rest
    (answer :: answers, c)

end Cache
end NestedData.Regex
