import NestedData.Filter.Projection
/-!
Options of filters: the projection of what is selected, and whether it is strict. A projection
without columns counts as none.
-/

namespace NestedData

structure FilterOptions where
  projection : Option Projection := none
  strict : Bool := false
  deriving Repr

namespace FilterOptions

def withProjection (o : FilterOptions) (p : Projection) : FilterOptions :=
  { o with projection := if p.isEmpty then none else some p }

def entry (o : FilterOptions) (key : String) (v : Value) : Except SpecError FilterOptions :=
  if key = "$project" then (Projection.ofSpec v).map o.withProjection
  else if key = "$strict" then
    match v with
    | .bool b => .ok { o with strict := b }
    | _ => .error (.invalidOperand "$strict" "a boolean")
  else .error (.unknownOperator key)

def entries (o : FilterOptions) : List (String × Value) → Except SpecError FilterOptions
  | [] => .ok o
  | (k, v) :: rest => (o.entry k v).bind fun o => entries o rest

def ofSpec : Value → Except SpecError FilterOptions
  | .null => .ok {}
  | .object members => entries {} members
  | _ => .error (.invalidOperand "options" "a mapping of options")

def columns? (o : FilterOptions) : Option (List String) := o.projection.map Dict.keys

end FilterOptions
end NestedData
