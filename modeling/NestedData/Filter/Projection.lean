import NestedData.Filter.SpecError
import NestedData.Json.Value
/-!
Projections: the columns kept of a record. A column is kept whole or is itself projected; a list is
projected item by item, at every level. What has no such column yields none, unless the projection
is strict: then the first missing one is an error that names it by its dotted path.
-/

namespace NestedData

inductive Column where
  | whole
  | part (columns : List (String × Column))
  deriving Repr

abbrev Projection := List (String × Column)

structure MissingField where
  field : String
  deriving DecidableEq, Repr

def MissingField.message (e : MissingField) : String :=
  "projected field '" ++ e.field ++ "' is missing from record"

mutual
/-- Applies `f` to every item of a list, at every level, and to any other value itself. -/
def Value.mapItems {ε : Type} (f : Value → Except ε Value) : Value → Except ε Value
  | .array items => (Value.mapItemsOf f items).map .array
  | .object ms => f (.object ms)
  | .null => f .null
  | .bool b => f (.bool b)
  | .number n => f (.number n)
  | .string s => f (.string s)

def Value.mapItemsOf {ε : Type} (f : Value → Except ε Value) : List Value → Except ε (List Value)
  | [] => .ok []
  | v :: rest => do
    let w ← Value.mapItems f v
    let ws ← Value.mapItemsOf f rest
    return w :: ws
end

namespace Projection

/-- The dotted path of a column; below the empty path it is the name alone. -/
def below (path name : String) : String := if path.isEmpty then name else path ++ "." ++ name

mutual
def keepColumn (strict : Bool) (path : String) : Column → Value → Except MissingField Value
  | .whole, v => .ok v
  | .part columns, v =>
    Value.mapItems (fun r => (keepColumns strict path columns r.members).map .object) v

def keepColumns (strict : Bool) (path : String) :
    List (String × Column) → List (String × Value) → Except MissingField (List (String × Value))
  | [], _ => .ok []
  | (name, column) :: rest, members =>
    match Dict.get? name members with
    | none =>
      if strict then .error ⟨below path name⟩ else keepColumns strict path rest members
    | some v => do
      let w ← keepColumn strict (below path name) column v
      let kept ← keepColumns strict path rest members
      return (name, w) :: kept
end

def apply (p : Projection) (strict : Bool) (record : Value) : Except MissingField Value :=
  keepColumn strict "" (.part p) record

def applyAll (p : Projection) (strict : Bool) : List Value → Except MissingField (List Value)
  | [] => .ok []
  | r :: rest => do
    let v ← p.apply strict r
    let vs ← applyAll p strict rest
    return v :: vs

def ofNames (names : List String) : Projection :=
  names.foldl (fun p n => Dict.insert n .whole p) []

def withPart (p : Projection) (name : String) (nested : Projection) : Projection :=
  Dict.insert name (.part nested) p

def shapeError : SpecError :=
  .invalidOperand "$project"
    "a field name, a list of field names or a mapping of nested projections"

/-- The columns that a list names; numbers name columns by their text. -/
def names? : List Value → Except SpecError (List String)
  | [] => .ok []
  | .string s :: rest => (names? rest).map (s :: ·)
  | .number n :: rest => (names? rest).map (String.ofList n.text :: ·)
  | _ :: _ => .error shapeError

mutual
/-- Reads a projection: a name, a list of names, or an object that says of each name whether it is
kept, dropped or projected. -/
def ofSpec : Value → Except SpecError (List (String × Column))
  | .null => .ok []
  | .string name => .ok [(name, .whole)]
  | .array names => (names? names).map ofNames
  | .object members => columnsFrom [] members
  | .bool _ => .error shapeError
  | .number _ => .error shapeError

def columnsFrom (p : List (String × Column)) :
    List (String × Value) → Except SpecError (List (String × Column))
  | [] => .ok p
  | (name, spec) :: rest => do
    match ← columnOf spec with
    | none => columnsFrom p rest
    | some column => columnsFrom (Dict.insert name column p) rest

def columnOf : Value → Except SpecError (Option Column)
  | .null => .ok (some .whole)
  | .bool b => .ok (if b then some .whole else none)
  | .array names => (names? names).map fun ns => some (.part (ofNames ns))
  | .object members => (columnsFrom [] members).map fun p => some (.part p)
  | .string _ => .error shapeError
  | .number _ => .error shapeError
end

end Projection
end NestedData
