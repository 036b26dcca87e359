import NestedData.Filter.Expand
import NestedData.Filter.SpecError
/-!
The conditions that filter specifications denote. A document is read as the conjunction of its
entries, after its dotted keys are expanded. Operands and literals are taken over as they are. Each
round of reading works on a lighter specification, so reading ends without a bound on depth.
-/

namespace NestedData.Filter

abbrev SpecResult := Except SpecError

def needsItems (op : Operator) : SpecError := .invalidOperand op.key "a non-empty list"
def needsMapping (op : Operator) : SpecError := .invalidOperand op.key "a mapping"
def needsField (op : Operator) : SpecError := .invalidOperand op.key "to be applied to a field"

def textOperand (op : Operator) (v : Value) : SpecResult String :=
  match v with
  | .string s => .ok s
  | .number n => .ok (String.ofList n.text)
  | _ => .error (.invalidOperand op.key "a string")

/-- A list of literals; a single one stands for the list of it. -/
def literals : Value → List Value
  | .array items => items
  | v => [v]

/-- A bound of a range; null leaves it open. -/
def bound? : Value → Option Value
  | .null => none
  | v => some v

def leafCondition (field : String) (op : Operator) (v : Value) : SpecResult Condition :=
  let text (t : TextTest) := (textOperand op v).map (.text field t)
  match op with
  | .eq => .ok (.compare field .eq v)
  | .gt => .ok (.compare field .gt v)
  | .lt => .ok (.compare field .lt v)
  | .gte => .ok (.compare field .gte v)
  | .lte => .ok (.compare field .lte v)
  | .between =>
    match literals v with
    | [] => .ok (.between field none none)
    | [low] => .ok (.between field (bound? low) none)
    | [low, high] => .ok (.between field (bound? low) (bound? high))
    | _ => .error (.invalidOperand op.key "at most two bounds")
  | .oneOf => .ok (.oneOf field (literals v))
  | .startsWith => text .startsWith
  | .endsWith => text .endsWith
  | .contains => text .contains
  | .matches => text .matches
  | .or | .and | .not => .error (needsField op)

mutual
/-- The condition of a document: all of its entries. -/
def document (d : Document) : SpecResult Condition := (entries (expand d)).map .all
termination_by (weightMembers d, 2)
decreasing_by
  have := weightMembers_expand_le d
  rcases Nat.lt_or_eq_of_le this with h | h
  · exact Prod.Lex.left _ _ h
  · rw [h]
    exact Prod.Lex.right _ (by decide)

def entries (es : Document) : SpecResult (List Condition) :=
  match es with
  | [] => .ok []
  | (k, v) :: rest => do
    let c ← entry k v
    let cs ← entries rest
    return c :: cs
termination_by (weightMembers es, 1)
decreasing_by
  · simp only [weightMembers]
    exact Prod.Lex.left _ _ (by have := keyWeight_pos k; omega)
  · simp only [weightMembers]
    exact Prod.Lex.left _ _ (by have := keyWeight_pos k; omega)

/-- An entry of a document: an operator over documents, or a field. -/
def entry (key : String) (v : Value) : SpecResult Condition :=
  if isOperatorKey key then
    match Operator.ofKey? key with
    | none => .error (.unknownOperator key)
    | some .and =>
      match v with
      | .array (x :: xs) => (documents .and (x :: xs)).map .all
      | _ => .error (needsItems .and)
    | some .or =>
      match v with
      | .array (x :: xs) => (documents .or (x :: xs)).map .any
      | _ => .error (needsItems .or)
    | some .not =>
      match v with
      | .object d => (document d).map .not
      | _ => .error (needsMapping .not)
    | some op => .error (needsField op)
  else
    match v with
    | .object d => fieldSpec key d
    | literal => .ok (.compare key .eq literal)
termination_by (weight v, 0)
decreasing_by
  · exact Prod.Lex.left _ _ (by simp only [weight]; omega)
  · exact Prod.Lex.left _ _ (by simp only [weight]; omega)
  · exact Prod.Lex.left _ _ (by simp only [weight]; omega)
  · exact Prod.Lex.left _ _ (by simp only [weight]; omega)

def documents (op : Operator) (items : List Value) : SpecResult (List Condition) :=
  match items with
  | [] => .ok []
  | .object d :: rest => do
    let c ← document d
    let cs ← documents op rest
    return c :: cs
  | _ :: _ => .error (.invalidOperand op.key "a list of mappings")
termination_by (weightItems items, 1)
decreasing_by
  · simp only [weightItems, weight]
    exact Prod.Lex.left _ _ (by omega)
  · simp only [weightItems, weight]
    exact Prod.Lex.left _ _ (by omega)

/-- What a field is asked: one operator, or a document for the record it holds. -/
def fieldSpec (field : String) (d : Document) : SpecResult Condition :=
  if !hasOperator d && !d.isEmpty then (document d).map (.group field)
  else
    match d with
    | [(key, v)] =>
      match Operator.ofKey? key with
      | none => .error (.unknownOperator key)
      | some op => operator field op v
    | _ => .error (.fieldArity field d.length)
termination_by (weightMembers d, 3)
decreasing_by
  · exact Prod.Lex.right _ (by decide)
  · simp only [weightMembers]
    exact Prod.Lex.left _ _ (by have := keyWeight_pos key; omega)

def operator (field : String) (op : Operator) (v : Value) : SpecResult Condition :=
  match op with
  | .not =>
    match v with
    | .object d => (fieldSpec field d).map .not
    | _ => .error (needsMapping .not)
  | .and =>
    match v with
    | .array (x :: xs) => (fieldSpecs field .and (x :: xs)).map .all
    | _ => .error (needsItems .and)
  | .or =>
    match v with
    | .array (x :: xs) => (fieldSpecs field .or (x :: xs)).map .any
    | _ => .error (needsItems .or)
  | op => leafCondition field op v
termination_by (weight v, 0)
decreasing_by
  · exact Prod.Lex.left _ _ (by simp only [weight]; omega)
  · exact Prod.Lex.left _ _ (by simp only [weight]; omega)
  · exact Prod.Lex.left _ _ (by simp only [weight]; omega)

def fieldSpecs (field : String) (op : Operator) (items : List Value) :
    SpecResult (List Condition) :=
  match items with
  | [] => .ok []
  | .object d :: rest => do
    let c ← fieldSpec field d
    let cs ← fieldSpecs field op rest
    return c :: cs
  | _ :: _ => .error (.invalidOperand op.key "a list of operator mappings")
termination_by (weightItems items, 1)
decreasing_by
  · simp only [weightItems, weight]
    exact Prod.Lex.left _ _ (by omega)
  · simp only [weightItems, weight]
    exact Prod.Lex.left _ _ (by omega)
end

end NestedData.Filter

namespace NestedData

/-- The condition that a specification denotes; none and the empty document hold of everything. -/
def Condition.ofSpec : Value → Except SpecError Condition
  | .null => .ok .always
  | .object d => Filter.document d
  | _ => .error (.invalidOperand "filter" "a mapping of fields and operators")

end NestedData
