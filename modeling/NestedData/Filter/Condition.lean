import NestedData.Filter.Comparison
/-!
Conditions on records: the trees that filters are compiled from. Each leaf asks about one field; a
group asks about the record that a field holds. The operators of the filter language are listed
here with their keys.
-/

namespace NestedData

inductive TextTest where
  | startsWith
  | endsWith
  | contains
  | matches
  deriving DecidableEq, Repr

inductive Condition where
  | all (parts : List Condition)
  | any (parts : List Condition)
  | not (c : Condition)
  | compare (field : String) (comparison : Comparison) (literal : Value)
  /-- An inclusive range; a bound may be left open. -/
  | between (field : String) (low high : Option Value)
  | oneOf (field : String) (literals : List Value)
  | text (field : String) (test : TextTest) (pattern : String)
  | group (field : String) (c : Condition)
  deriving Repr

namespace Condition

def always : Condition := .all []

def field? : Condition → Option String
  | .compare f .. | .between f .. | .oneOf f .. | .text f .. | .group f _ => some f
  | _ => none

mutual
/-- The fields of the record that the condition asks about, in order. The fields asked about inside
a group belong to another record. -/
def asked : Condition → List String
  | .all parts => askedOf parts
  | .any parts => askedOf parts
  | .not c => asked c
  | .compare f .. => [f]
  | .between f .. => [f]
  | .oneOf f .. => [f]
  | .text f .. => [f]
  | .group f _ => [f]

def askedOf : List Condition → List String
  | [] => []
  | c :: rest => asked c ++ askedOf rest
end

def distinct (names : List String) : List String :=
  names.foldl (fun seen n => if n ∈ seen then seen else seen ++ [n]) []

def fields (c : Condition) : List String := distinct c.asked

mutual
def same : Condition → Condition → Bool
  | .all ps, .all qs => sameParts ps qs
  | .any ps, .any qs => sameParts ps qs
  | .not c, .not d => same c d
  | .compare f c v, .compare g d w => f = g && c = d && v.same w
  | .between f l h, .between g m i => f = g && sameBound l m && sameBound h i
  | .oneOf f vs, .oneOf g ws => f = g && (Value.array vs).same (.array ws)
  | .text f t p, .text g u q => f = g && t = u && p = q
  | .group f c, .group g d => f = g && same c d
  | _, _ => false
where
  sameBound : Option Value → Option Value → Bool
  | none, none => true
  | some v, some w => v.same w
  | _, _ => false

def sameParts : List Condition → List Condition → Bool
  | [], [] => true
  | p :: ps, q :: qs => same p q && sameParts ps qs
  | _, _ => false
end

end Condition

inductive Operator where
  | or
  | and
  | not
  | eq
  | gt
  | lt
  | gte
  | lte
  | between
  | oneOf
  | startsWith
  | endsWith
  | contains
  | matches
  deriving DecidableEq, Repr

namespace Operator

def key : Operator → String
  | .or => "$or"
  | .and => "$and"
  | .not => "$not"
  | .eq => "$eq"
  | .gt => "$gt"
  | .lt => "$lt"
  | .gte => "$gte"
  | .lte => "$lte"
  | .between => "$between"
  | .oneOf => "$in"
  | .startsWith => "$prefix"
  | .endsWith => "$suffix"
  | .contains => "$factor"
  | .matches => "$regex"

def all : List Operator :=
  [.or, .and, .not, .eq, .gt, .lt, .gte, .lte, .between, .oneOf, .startsWith, .endsWith,
    .contains, .matches]

def ofKey? (key : String) : Option Operator := all.find? fun o => o.key = key

def isLogical : Operator → Bool
  | .or | .and | .not => true
  | _ => false

end Operator

/-- Keys that begin like an operator name no field. -/
def isOperatorKey (key : String) : Bool := key.toList.head? = some '$'

end NestedData
