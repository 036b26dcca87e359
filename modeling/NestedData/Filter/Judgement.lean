import NestedData.Filter.Condition
import NestedData.Filter.Fingerprint
import NestedData.Filter.SpecError
import NestedData.Regex.Engine
import NestedData.Text.Search
/-!
Judging records. A judgement holds, does not hold, or is not to be had: a field is missing, or has
no order with the literal or no text. Conjunction and disjunction go from left to right and stop at
the first part that decides them or cannot judge the record.
-/

namespace NestedData

abbrev Judgement := Value → Option Bool

/-- A list index in decimal, with an optional plus. -/
def index? (field : String) : Option Nat :=
  let digits := match field.toList with
    | '+' :: rest => rest
    | cs => cs
  if digits.isEmpty || !digits.all Char.isDigit then none
  else some (digits.foldl (fun n d => 10 * n + Number.digitValue d) 0)

/-- The field of a record: a member of an object, or an item of a list by its index. -/
def Value.field? (record : Value) (field : String) : Option Value :=
  match record with
  | .object ms => Dict.get? field ms
  | .array items => (index? field).bind (items[·]?)
  | _ => none

def Value.text? : Value → Option (List Char)
  | .string s => some s.toList
  | .number n => some n.text
  | _ => none

namespace Judgement

def constant (b : Bool) : Judgement := fun _ => some b

def not (j : Judgement) : Judgement := fun r => (j r).map (!·)

def and (j k : Judgement) : Judgement := fun r =>
  match j r with
  | some true => k r
  | verdict => verdict

def or (j k : Judgement) : Judgement := fun r =>
  match j r with
  | some false => k r
  | verdict => verdict

def all : List Judgement → Judgement
  | [] => constant true
  | j :: rest => j.and (all rest)

def any : List Judgement → Judgement
  | [] => constant false
  | j :: rest => j.or (any rest)

def onField (field : String) (j : Judgement) : Judgement := fun r => (r.field? field).bind j

def compare (field : String) (c : Comparison) (literal : Value) : Judgement :=
  onField field fun v => c.test v literal

def between (field : String) : Option Value → Option Value → Judgement
  | none, none => constant true
  | some low, none => compare field .gte low
  | none, some high => compare field .lte high
  | some low, some high => (compare field .gte low).and (compare field .lte high)

def unseen (seen : List (List Char)) : List Value → List Value
  | [] => []
  | v :: rest =>
    if v.fingerprint ∈ seen then unseen seen rest else v :: unseen (v.fingerprint :: seen) rest

/-- Literals of one fingerprint count as one. A single one is compared with the field; among several
the fingerprint of the field is searched for. -/
def oneOf (field : String) (literals : List Value) : Judgement :=
  match unseen [] literals with
  | [] => constant false
  | [v] => compare field .eq v
  | vs => onField field fun x => some (vs.any (·.fingerprint = x.fingerprint))

def onText (field : String) (test : List Char → Bool) : Judgement :=
  onField field fun v => v.text?.map test

def text (engine : Regex.Engine) (field : String) (test : TextTest) (pattern : String) :
    Except SpecError Judgement :=
  match test with
  | .startsWith => .ok (onText field pattern.toList.isPrefixOf)
  | .endsWith => .ok (onText field pattern.toList.isSuffixOf)
  | .contains => .ok (onText field (Text.occurs pattern.toList))
  | .matches =>
    match engine.ofDelimited? pattern with
    | none => .error (.invalidPattern pattern)
    | some p => .ok (onText field fun cs => engine.isMatch p (String.ofList cs))

end Judgement

namespace Condition

variable (engine : Regex.Engine)

mutual
/-- The judgement of a condition, unless it asks for a match with what is no pattern. -/
def compile : Condition → Except SpecError Judgement
  | .all parts => (compileParts parts).map .all
  | .any parts => (compileParts parts).map .any
  | .not c => (compile c).map .not
  | .compare f c v => .ok (.compare f c v)
  | .between f low high => .ok (.between f low high)
  | .oneOf f vs => .ok (.oneOf f vs)
  | .text f t p => Judgement.text engine f t p
  | .group f c => (compile c).map (.onField f)

def compileParts : List Condition → Except SpecError (List Judgement)
  | [] => .ok []
  | c :: rest => do
    let j ← compile c
    let js ← compileParts rest
    return j :: js
end

end Condition
end NestedData
