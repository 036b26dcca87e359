import NestedData.Dict
import NestedData.Number.Basic
/-!
JSON values. Objects keep the order of their members and, when `WellFormed`, repeat no key. Two
equalities are of use: both ignore the order of members, and they differ in how numbers compare.
-/

namespace NestedData

inductive Value where
  | null
  | bool (b : Bool)
  | number (n : Number)
  | string (s : String)
  | array (items : List Value)
  | object (members : List (String × Value))
  deriving Repr

instance : Inhabited Value := ⟨.null⟩

namespace Value

mutual
def WellFormed : Value → Prop
  | .array items => WellFormedItems items
  | .object members => Dict.Distinct members ∧ WellFormedMembers members
  | _ => True

def WellFormedItems : List Value → Prop
  | [] => True
  | v :: rest => WellFormed v ∧ WellFormedItems rest

def WellFormedMembers : List (String × Value) → Prop
  | [] => True
  | (_, v) :: rest => WellFormed v ∧ WellFormedMembers rest
end

mutual
/-- Equality of values whose numbers are told apart by `eq`: kinds agree, lists agree item by item,
and objects have equally many members of which each of the first is found in the second. -/
def alike (eq : Number → Number → Bool) : Value → Value → Bool
  | .null, .null => true
  | .bool a, .bool b => a = b
  | .number a, .number b => eq a b
  | .string a, .string b => a = b
  | .array xs, .array ys => alikeItems eq xs ys
  | .object ms, .object ns => ms.length = ns.length && alikeMembers eq ms ns
  | _, _ => false

def alikeItems (eq : Number → Number → Bool) : List Value → List Value → Bool
  | [], [] => true
  | x :: xs, y :: ys => alike eq x y && alikeItems eq xs ys
  | _, _ => false

def alikeMembers (eq : Number → Number → Bool) :
    List (String × Value) → List (String × Value) → Bool
  | [], _ => true
  | (k, x) :: rest, ns =>
    (match Dict.get? k ns with
      | some y => alike eq x y
      | none => false) && alikeMembers eq rest ns
end

/-- Equality of JSON values; an integer never equals a binary number. -/
def same : Value → Value → Bool := alike Number.same

/-- Equality in which numbers compare by value, whatever their kind. -/
def equal : Value → Value → Bool := alike fun a b => a.order b = .eq

def isObject : Value → Bool
  | .object _ => true
  | _ => false

def members? : Value → Option (List (String × Value))
  | .object ms => some ms
  | _ => none

def items? : Value → Option (List Value)
  | .array vs => some vs
  | _ => none

def members (v : Value) : List (String × Value) := v.members?.getD []

def get? (v : Value) (key : String) : Option Value := v.members?.bind (Dict.get? key)

end Value
end NestedData
