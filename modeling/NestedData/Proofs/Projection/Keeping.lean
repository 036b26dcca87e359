import NestedData.Filter.Projection
import NestedData.Proofs.Json.Values
/-!
What a projection keeps of a record, and what it misses there. Both are found apart from each other:
what is kept does not depend on whether the projection is strict, and a strict projection gives it
unless something is missing, of which it names the first.
-/

namespace NestedData

namespace Value

mutual
def eachItem (f : Value → Value) : Value → Value
  | .array items => .array (eachItemOf f items)
  | .object ms => f (.object ms)
  | .null => f .null
  | .bool b => f (.bool b)
  | .number n => f (.number n)
  | .string s => f (.string s)

def eachItemOf (f : Value → Value) : List Value → List Value
  | [] => []
  | v :: rest => eachItem f v :: eachItemOf f rest
end

mutual
def leafItems : Value → List Value
  | .array items => leafItemsOf items
  | .object ms => [.object ms]
  | .null => [.null]
  | .bool b => [.bool b]
  | .number n => [.number n]
  | .string s => [.string s]

def leafItemsOf : List Value → List Value
  | [] => []
  | v :: rest => leafItems v ++ leafItemsOf rest
end

variable {v : Value}

theorem eachItem_array (f : Value → Value) (items : List Value) :
    eachItem f (.array items) = .array (items.map (eachItem f)) := by
  rw [eachItem]
  induction items with
  | nil => rfl
  | cons v items ih => rw [eachItemOf, List.map_cons, Value.array.inj ih]

theorem leafItems_array (items : List Value) :
    leafItems (.array items) = items.flatMap leafItems := by
  rw [leafItems]
  induction items with
  | nil => rfl
  | cons v items ih => rw [leafItemsOf, List.flatMap_cons, ih]

theorem eachItem_of_items? (h : v.items? = none) (f : Value → Value) : v.eachItem f = f v := by
  cases v with
  | array => cases h
  | null | bool | number | string | object => rfl

theorem leafItems_of_items? (h : v.items? = none) : v.leafItems = [v] := by
  cases v with
  | array => cases h
  | null | bool | number | string | object => rfl

theorem get?_members (v : Value) (name : String) : Dict.get? name v.members = v.get? name := by
  cases v <;> rfl

end Value

namespace Column

@[elab_as_elim, induction_eliminator]
theorem induct {motive : Column → Prop} (whole : motive .whole)
    (part : ∀ columns, (∀ e ∈ columns, motive e.2) → motive (.part columns)) : ∀ c, motive c
  | .whole => whole
  | .part columns => part columns fun e _ => induct whole part e.2
termination_by c => sizeOf c
decreasing_by
  rename_i he
  have := List.sizeOf_lt_of_mem he
  obtain ⟨name, c⟩ := e
  simp only [Prod.mk.sizeOf_spec] at this
  simp only [Column.part.sizeOf_spec]
  omega

mutual
def kept : Column → Value → Value
  | .whole, v => v
  | .part columns, v => v.eachItem fun r => .object (keptMembers columns r.members)

def keptMembers : List (String × Column) → List (String × Value) → List (String × Value)
  | [], _ => []
  | (name, c) :: rest, ms =>
    match Dict.get? name ms with
    | none => keptMembers rest ms
    | some v => (name, kept c v) :: keptMembers rest ms
end

mutual
/-- The paths of the columns that a value lacks below a column, in the order in which they are met:
item by item, column by column, and below a column before the next one. -/
def missing : Column → Value → List (List String)
  | .whole, _ => []
  | .part columns, v => v.leafItems.flatMap fun r => missingMembers columns r.members

def missingMembers : List (String × Column) → List (String × Value) → List (List String)
  | [], _ => []
  | (name, c) :: rest, ms =>
    (match Dict.get? name ms with
      | none => [[name]]
      | some v => (missing c v).map (name :: ·)) ++ missingMembers rest ms
end

variable {columns : List (String × Column)} {v : Value}

theorem kept_array (columns : List (String × Column)) (items : List Value) :
    (part columns).kept (.array items) = .array (items.map (part columns).kept) := by
  rw [kept, Value.eachItem_array]
  refine congrArg Value.array (List.map_congr_left fun v _ => ?_)
  rw [kept]

theorem kept_of_items? (h : v.items? = none) (columns : List (String × Column)) :
    (part columns).kept v = .object (keptMembers columns v.members) := by
  rw [kept, Value.eachItem_of_items? h]

theorem missing_array (columns : List (String × Column)) (items : List Value) :
    (part columns).missing (.array items) = items.flatMap (part columns).missing := by
  rw [missing, Value.leafItems_array, List.flatMap_assoc]
  refine List.flatMap_congr fun v _ => ?_
  rw [missing]

theorem missing_of_items? (h : v.items? = none) (columns : List (String × Column)) :
    (part columns).missing v = missingMembers columns v.members := by
  rw [missing, Value.leafItems_of_items? h, List.flatMap_singleton]

end Column

namespace Projection

def kept (p : Projection) (record : Value) : Value := (Column.part p).kept record

def missing (p : Projection) (record : Value) : List (List String) :=
  (Column.part p).missing record

/-- The paths that stand in the way of a projection: none unless it is strict. -/
def faults (strict : Bool) (missing : List (List String)) : List (List String) :=
  if strict then missing else []

/-- The result, unless there are faults: then the first of them is named below the path. -/
def unlessFaults {α : Type} (path : String) (faults : List (List String)) (a : α) :
    Except MissingField α :=
  match faults with
  | [] => .ok a
  | names :: _ => .error ⟨names.foldl below path⟩

variable {α β : Type} {strict : Bool} {path : String} {columns : List (String × Column)}

theorem faults_map (strict : Bool) (name : String) (ps : List (List String)) :
    faults strict (ps.map (name :: ·)) = (faults strict ps).map (name :: ·) := by
  cases strict <;> rfl

theorem faults_append (strict : Bool) (ps qs : List (List String)) :
    faults strict (ps ++ qs) = faults strict ps ++ faults strict qs := by
  cases strict <;> rfl

theorem faults_flatMap (strict : Bool) (xs : List α) (f : α → List (List String)) :
    faults strict (xs.flatMap f) = xs.flatMap fun x => faults strict (f x) := by
  cases strict with
  | true => rfl
  | false => exact (List.flatMap_eq_nil_iff.2 fun _ _ => rfl).symm

theorem unlessFaults_below (path name : String) (ps : List (List String)) (a : α) :
    unlessFaults (below path name) ps a = unlessFaults path (ps.map (name :: ·)) a := by
  cases ps <;> rfl

theorem unlessFaults_map (f : α → β) (path : String) (ps : List (List String)) (a : α) :
    (unlessFaults path ps a).map f = unlessFaults path ps (f a) := by
  cases ps <;> rfl

theorem unlessFaults_both {γ : Type} (path : String) (ps qs : List (List String)) (a : α) (b : β)
    (f : α → β → γ) :
    (do
      let x ← unlessFaults path ps a
      let y ← unlessFaults path qs b
      return f x y) = unlessFaults path (ps ++ qs) (f a b) := by
  cases ps <;> cases qs <;> rfl

theorem mapItems_eq {f : Value → Except MissingField Value} {m : Value → List (List String)}
    {k : Value → Value} (h : ∀ r, f r = unlessFaults path (m r) (k r)) (v : Value) :
    v.mapItems f = unlessFaults path (v.leafItems.flatMap m) (v.eachItem k) := by
  induction v with
  | array items ih =>
    have hitems : Value.mapItemsOf f items = unlessFaults path
        (items.flatMap fun v => v.leafItems.flatMap m) (items.map (Value.eachItem k)) := by
      induction items with
      | nil => rfl
      | cons v items ihs =>
        rw [List.forall_mem_cons] at ih
        rw [Value.mapItemsOf, ih.1, ihs ih.2, List.flatMap_cons, List.map_cons]
        exact unlessFaults_both path _ _ _ _ List.cons
    rw [Value.mapItems, hitems, unlessFaults_map, Value.leafItems_array, List.flatMap_assoc,
      Value.eachItem_array]
  | null | bool | number | string | object =>
    rw [Value.mapItems, h, Value.leafItems_of_items? rfl, Value.eachItem_of_items? rfl,
      List.flatMap_singleton]

theorem keepColumns_eq (h : ∀ e ∈ columns, ∀ path v, keepColumn strict path e.2 v =
      unlessFaults path (faults strict (e.2.missing v)) (e.2.kept v))
    (path : String) (ms : List (String × Value)) : keepColumns strict path columns ms =
      unlessFaults path (faults strict (Column.missingMembers columns ms))
        (Column.keptMembers columns ms) := by
  induction columns with
  | nil => cases strict <;> rfl
  | cons e columns ih =>
    obtain ⟨name, c⟩ := e
    rw [List.forall_mem_cons] at h
    rw [keepColumns, Column.missingMembers, Column.keptMembers, faults_append]
    cases Dict.get? name ms with
    | none =>
      dsimp only
      rw [ih h.2]
      cases strict <;> rfl
    | some v =>
      dsimp only
      rw [h.1, ih h.2, unlessFaults_below, faults_map]
      exact unlessFaults_both path _ _ _ _ fun w kept => (name, w) :: kept

/-- A strict projection gives what is kept unless something is missing. -/
theorem keepColumn_eq (strict : Bool) (path : String) (c : Column) (v : Value) :
    keepColumn strict path c v =
      unlessFaults path (faults strict (c.missing v)) (c.kept v) := by
  induction c generalizing path v with
  | whole => cases strict <;> rfl
  | part columns ih =>
    have hrecord (r : Value) : (keepColumns strict path columns r.members).map .object =
        unlessFaults path (faults strict (Column.missingMembers columns r.members))
          (Value.object (Column.keptMembers columns r.members)) := by
      rw [keepColumns_eq ih, unlessFaults_map]
    rw [keepColumn, mapItems_eq hrecord, ← faults_flatMap, Column.missing, Column.kept]

theorem apply_eq (p : Projection) (strict : Bool) (record : Value) :
    p.apply strict record = unlessFaults "" (faults strict (p.missing record)) (p.kept record) :=
  keepColumn_eq strict "" (.part p) record

theorem apply_lenient (p : Projection) (record : Value) :
    p.apply false record = .ok (p.kept record) :=
  apply_eq p false record

theorem applyAll_eq (p : Projection) (strict : Bool) (records : List Value) :
    p.applyAll strict records =
      unlessFaults "" (faults strict (records.flatMap p.missing)) (records.map p.kept) := by
  induction records with
  | nil => cases strict <;> rfl
  | cons r records ih =>
    rw [applyAll, apply_eq, ih, List.flatMap_cons, List.map_cons, faults_append]
    exact unlessFaults_both "" _ _ _ _ List.cons

end Projection
end NestedData
