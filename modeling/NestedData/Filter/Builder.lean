import NestedData.Filter.Basic
/-!
Building filter specifications step by step. Each condition is a clause of its own, so that a field
may be asked about more than once; branches are built by steps of their own, of which only the
clauses count.
-/

namespace NestedData.Filter

inductive Step where
  | ask (field : String) (op : Operator) (operand : Value)
  | clause (spec : Value)
  | or (branches : List (List Step))
  | and (branches : List (List Step))
  | not (branch : List Step)
  | project (names : List String)
  | projectSpec (spec : Value)
  | strictProjection
  deriving Repr

/-- A specification of clauses: the only one, or all of them. -/
def combine : List Value → Value
  | [] => .object []
  | [clause] => clause
  | clauses => .object [(Operator.and.key, .array clauses)]

def Step.between (field : String) (low high : Option Value) : Step :=
  .ask field .between (.array [low.getD .null, high.getD .null])

mutual
def Step.clause? : Step → Option Value
  | .ask field op operand => some (.object [(field, .object [(op.key, operand)])])
  | .clause spec => some spec
  | .or branches => some (.object [(Operator.or.key, .array (branchSpecs branches))])
  | .and branches => some (.object [(Operator.and.key, .array (branchSpecs branches))])
  | .not branch => some (.object [(Operator.not.key, combine (clauses branch))])
  | .project _ => none
  | .projectSpec _ => none
  | .strictProjection => none

def clauses : List Step → List Value
  | [] => []
  | s :: rest =>
    match s.clause? with
    | some c => c :: clauses rest
    | none => clauses rest

def branchSpecs : List (List Step) → List Value
  | [] => []
  | b :: rest => combine (clauses b) :: branchSpecs rest
end

def specOf (steps : List Step) : Value := combine (clauses steps)

def Step.option? : Step → Option (String × Value)
  | .project names => some ("$project", .array (names.map .string))
  | .projectSpec spec => some ("$project", spec)
  | .strictProjection => some ("$strict", .bool true)
  | _ => none

def optionsOf (steps : List Step) : Value := .object (Dict.ofEntries (steps.filterMap Step.option?))

def build (engine : Regex.Engine) (steps : List Step) : Except SpecError Filter :=
  ofSpecs engine (specOf steps) (optionsOf steps)

end NestedData.Filter
