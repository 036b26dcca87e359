/-!
What is wrong with the specification of a filter.
-/

namespace NestedData

inductive SpecError where
  /-- More or fewer keys than a place admits. -/
  | arity (detail : String)
  | unknownOperator (operator : String)
  | invalidOperand (operator expected : String)
  | invalidPattern (pattern : String)
  deriving DecidableEq, Repr

namespace SpecError

def kind : SpecError → String
  | .arity _ => "Arity"
  | .unknownOperator _ => "UnknownOperator"
  | .invalidOperand .. => "InvalidOperand"
  | .invalidPattern _ => "InvalidRegex"

def detail : SpecError → String
  | .arity detail => detail
  | .unknownOperator operator => "unknown operator '" ++ operator ++ "'"
  | .invalidOperand operator expected => "operator '" ++ operator ++ "' expects " ++ expected
  | .invalidPattern pattern => "invalid pattern '" ++ pattern ++ "'"

def message (e : SpecError) : String := "Bad filter format (" ++ e.kind ++ "): " ++ e.detail

def fieldArity (field : String) (found : Nat) : SpecError :=
  .arity ("field '" ++ field ++ "' expects exactly one operator, found " ++ found.repr ++ " key(s)")

end SpecError
end NestedData
