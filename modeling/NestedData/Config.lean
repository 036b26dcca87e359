import NestedData.Json.Printer
import NestedData.Json.Reader
/-!
The configuration of access to a tree: the delimiters of paths, whether writes make what is missing,
and whether a missing path is an error. A configuration is valid when it has a delimiter and none of
its delimiters is empty.
-/

namespace NestedData

/-- How access reports a path that cannot be followed to its end. -/
inductive Policy where
  | strict
  | silent
  deriving DecidableEq, Repr

structure Config where
  delimiters : List String := ["."]
  forceCreate : Bool := false
  policy : Policy := .strict
  deriving DecidableEq, Repr

inductive ConfigError where
  | noDelimiter
  | emptyDelimiter (index : Nat)
  deriving DecidableEq, Repr

def ConfigError.message (e : ConfigError) : String :=
  "Invalid delimiter set: " ++ match e with
    | .noDelimiter => "at least one delimiter is required"
    | .emptyDelimiter i => "delimiter #" ++ i.repr ++ " is empty"

namespace Config

/-- The delimiter that joins segments, and into which the others are folded. -/
def main (c : Config) : String := c.delimiters.head?.getD "."

def withDelimiters (c : Config) (delimiters : List String) : Config := { c with delimiters }

def addDelimiters (c : Config) (more : List String) : Config :=
  { c with delimiters := c.delimiters ++ more }

def problem? (c : Config) : Option ConfigError :=
  if c.delimiters.isEmpty then some .noDelimiter
  else (c.delimiters.findIdx? String.isEmpty).map .emptyDelimiter

def Valid (c : Config) : Prop := c.delimiters ≠ [] ∧ "" ∉ c.delimiters

instance (c : Config) : Decidable c.Valid := inferInstanceAs (Decidable (_ ∧ _))

def Policy.tag : Policy → String
  | .strict => "Strict"
  | .silent => "Silent"

def encode (c : Config) : Value :=
  .object [("delimiters", .array (c.delimiters.map .string)), ("force_create", .bool c.forceCreate),
    ("access_policy", .string (Policy.tag c.policy))]

open Json (Literal)

def decodePolicy? : Literal → Option Policy
  | .string (some tag) => named? tag
  | .object [(some tag, .null)] => named? tag
  | _ => none
where
  named? (tag : String) : Option Policy :=
    if tag = Policy.tag .strict then some .strict
    else if tag = Policy.tag .silent then some .silent
    else none

def decodeDelimiters? : Literal → Option (List String)
  | .array items => items.mapM fun
    | .string content => content
    | _ => none
  | _ => none

def decodeBool? : Literal → Option Bool
  | .bool b => some b
  | _ => none

def only? (key : String) (members : List (Option String × Literal)) : Option Literal :=
  match members.filter fun m => m.1 = some key with
  | [(_, l)] => some l
  | _ => none

/-- Reads a configuration from its members or from the list of its three parts. Other members are
passed over, whatever they hold. -/
def decode? : Literal → Option Config
  | .array [delimiters, forceCreate, policy] => do
    let delimiters ← decodeDelimiters? delimiters
    let forceCreate ← decodeBool? forceCreate
    let policy ← decodePolicy? policy
    return { delimiters, forceCreate, policy }
  | .object members => do
    if members.any fun m => m.1 = none then none
    let delimiters ← (only? "delimiters" members).bind decodeDelimiters?
    let forceCreate ← (only? "force_create" members).bind decodeBool?
    let policy ← (only? "access_policy" members).bind decodePolicy?
    return { delimiters, forceCreate, policy }
  | _ => none

def ofText? (text : String) : Option Config := (Literal.ofText? text).bind decode?

end Config
end NestedData
