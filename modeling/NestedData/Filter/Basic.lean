import NestedData.Filter.Spec
import NestedData.Filter.Judgement
import NestedData.Filter.Options
/-!
Filters: a condition with its judgement, and options for what is selected. A record that cannot be
judged is neither selected nor rejected. The engine for patterns is needed to make a filter, not to
apply it.
-/

namespace NestedData

structure Filter where
  condition : Condition
  judge : Judgement
  options : FilterOptions

namespace Filter

section Making

variable (engine : Regex.Engine)

def ofCondition (c : Condition) (options : FilterOptions) : Except SpecError Filter :=
  (c.compile engine).map fun judge => { condition := c, judge, options }

def withOptions (spec : Value) (options : FilterOptions) : Except SpecError Filter :=
  (Condition.ofSpec spec).bind fun c => ofCondition engine c options

def ofSpec (spec : Value) : Except SpecError Filter := withOptions engine spec {}

/-- The filter of a specification and an options object, which is read first. -/
def ofSpecs (spec options : Value) : Except SpecError Filter :=
  (FilterOptions.ofSpec options).bind (withOptions engine spec)

end Making

def selects (f : Filter) (record : Value) : Bool := f.judge record = some true

def rejects (f : Filter) (record : Value) : Bool := f.judge record = some false

def output (f : Filter) (records : List Value) : Except MissingField (List Value) :=
  match f.options.projection with
  | none => .ok records
  | some p => p.applyAll f.options.strict records

def select (f : Filter) (records : List Value) : Except MissingField (List Value) :=
  f.output (records.filter f.selects)

def reject (f : Filter) (records : List Value) : Except MissingField (List Value) :=
  f.output (records.filter f.rejects)

def fields (f : Filter) : List String := f.condition.fields

def columns (f : Filter) : List String := f.options.columns?.getD []

end Filter

/-- The records of a collection: the items of a list or the values of an object. -/
def Value.records : Value → List Value
  | .array items => items
  | .object members => Dict.values members
  | _ => []

end NestedData
