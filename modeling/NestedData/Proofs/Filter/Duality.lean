import NestedData.Proofs.Filter.FieldOperators
import NestedData.Regex.Dialect
/-!
Duality of conditions. A negation moves into a conjunction and makes a disjunction of it, and the
other way round; a group moves into both, and past a negation. The judgement stays the same on every
record, also where the record cannot be judged, and so do the fields that are asked about.
-/

namespace NestedData

namespace Filter.Junction

def dual : Junction → Junction
  | .all => .any
  | .any => .all

theorem not_judgement (k : Junction) (js : List Judgement) :
    (k.judgement js).not = k.dual.judgement (js.map .not) := by
  cases k with
  | all =>
    rw [dual, judgement, judgement, Judgement.any_eq_not_all, List.map_map]
    simp only [Function.comp_def, Judgement.not_not, List.map_id']
  | any =>
    rw [dual, judgement, judgement, Judgement.any_eq_not_all, Judgement.not_not]

theorem compile_condition_eq (engine : Regex.Engine) (k : Junction) (cs : List Condition) :
    (k.condition cs).compile engine = (Condition.compileParts engine cs).map k.judgement := by
  cases k <;> rw [condition, Condition.compile] <;> rfl

theorem asked_condition (k : Junction) (cs : List Condition) :
    (k.condition cs).asked = Condition.askedOf cs := by
  cases k <;> rw [condition, Condition.asked]

end Filter.Junction

namespace Condition

open NestedData.Filter (Junction)

/-- The conditions give one judgement, or are refused for one reason, and ask about the same fields
in the same order. -/
structure Interchangeable (engine : Regex.Engine) (c d : Condition) : Prop where
  compile : c.compile engine = d.compile engine
  fields : c.fields = d.fields

variable {engine : Regex.Engine} {f : String} {parts : List Condition}

theorem compileParts_map {g : Condition → Condition} {h : Judgement → Judgement}
    (hg : ∀ c, (g c).compile engine = (c.compile engine).map h) (parts : List Condition) :
    compileParts engine (parts.map g) = (compileParts engine parts).map (List.map h) := by
  induction parts with
  | nil => rfl
  | cons c parts ih =>
    rw [List.map_cons, compileParts, compileParts, hg, ih]
    cases c.compile engine with
    | error e => rfl
    | ok j => cases compileParts engine parts <;> rfl

theorem compileParts_ne_nil {js : List Judgement} (h : compileParts engine parts = .ok js)
    (hne : parts ≠ []) : js ≠ [] := by
  rintro rfl
  exact hne (List.forall₂_nil_right_iff.1 (compileParts_eq_ok_iff.1 h))

theorem askedOf_map_not (parts : List Condition) : askedOf (parts.map .not) = askedOf parts := by
  induction parts with
  | nil => rfl
  | cons c parts ih => rw [List.map_cons, askedOf, askedOf, ih, asked]

theorem askedOf_map_group (f : String) (parts : List Condition) :
    askedOf (parts.map (.group f)) = List.replicate parts.length f := by
  induction parts with
  | nil => rfl
  | cons c parts ih =>
    rw [List.map_cons, askedOf, asked, ih, List.length_cons, List.replicate_succ,
      List.singleton_append]

theorem distinct_replicate {n : ℕ} (hn : n ≠ 0) (f : String) :
    distinct (List.replicate n f) = [f] := by
  obtain ⟨n, rfl⟩ := Nat.exists_eq_succ_of_ne_zero hn
  rw [List.replicate_succ]
  induction n with
  | zero => rfl
  | succ n ih =>
    rw [List.replicate_succ, ← ih (Nat.succ_ne_zero n)]
    simp [distinct]

theorem interchangeable_not (k : Junction) (parts : List Condition) :
    Interchangeable engine (.not (k.condition parts)) (k.dual.condition (parts.map .not)) := by
  constructor
  · rw [compile, k.compile_condition_eq, k.dual.compile_condition_eq,
      compileParts_map (fun c => by rw [compile])]
    cases compileParts engine parts with
    | error e => rfl
    | ok js => exact congrArg Except.ok (k.not_judgement js)
  · rw [fields, fields, asked, k.asked_condition, k.dual.asked_condition, askedOf_map_not]

/-- An empty group still needs its field, so there must be a part. -/
theorem interchangeable_group (k : Junction) (f : String) (hne : parts ≠ []) :
    Interchangeable engine (.group f (k.condition parts)) (k.condition (parts.map (.group f))) := by
  constructor
  · rw [compile, k.compile_condition_eq, k.compile_condition_eq,
      compileParts_map (fun c => by rw [compile])]
    cases h : compileParts engine parts with
    | error e => rfl
    | ok js =>
      have hjs : js ≠ [] := compileParts_ne_nil h hne
      exact congrArg Except.ok (k.below_judgement [f] hjs)
  · have hlength : parts.length ≠ 0 := mt List.length_eq_zero_iff.1 hne
    rw [fields, fields, asked, k.asked_condition, askedOf_map_group, distinct_replicate hlength]
    rfl

theorem interchangeable_not_not (c : Condition) : Interchangeable engine (.not (.not c)) c := by
  constructor
  · rw [compile, compile]
    cases c.compile engine with
    | error e => rfl
    | ok j => exact congrArg Except.ok (Judgement.not_not j)
  · rw [fields, fields, asked, asked]

theorem interchangeable_group_not (f : String) (c : Condition) :
    Interchangeable engine (.group f (.not c)) (.not (.group f c)) := by
  constructor
  · rw [compile, compile, compile, compile]
    cases c.compile engine with
    | error e => rfl
    | ok j => exact congrArg Except.ok (Judgement.onField_not f j)
  · rw [fields, fields, asked, asked, asked]

/-- Negations move into conjunctions and disjunctions and cancel, and groups move into both unless
they are empty, and past negations. -/
theorem negation_duality (engine : Regex.Engine) (f : String) (c : Condition)
    (parts : List Condition) :
    Interchangeable engine (.not (.all parts)) (.any (parts.map .not)) ∧
    Interchangeable engine (.not (.any parts)) (.all (parts.map .not)) ∧
    Interchangeable engine (.not (.not c)) c ∧
    Interchangeable engine (.group f (.not c)) (.not (.group f c)) ∧
    (parts ≠ [] →
      Interchangeable engine (.group f (.all parts)) (.all (parts.map (.group f))) ∧
      Interchangeable engine (.group f (.any parts)) (.any (parts.map (.group f)))) := by
  refine ⟨interchangeable_not .all parts, interchangeable_not .any parts,
    interchangeable_not_not c, interchangeable_group_not f c, fun hne => ?_⟩
  exact ⟨interchangeable_group .all f hne, interchangeable_group .any f hne⟩

/-- A group of two alternatives, on a record of which the first has no verdict and the second holds:
neither form has a verdict. -/
theorem negation_duality_group :
    let parts : List Condition := [.compare "x" .gt (.bool false), .not (.compare "y" .eq .null)]
    let r : Value := .object [("f", .object [("x", .string "a"), ("y", .bool true)])]
    parts ≠ [] ∧
      Interchangeable Regex.dialect (.group "f" (.any parts)) (.any (parts.map (.group "f"))) ∧
      ∃ j, (any (parts.map (.group "f"))).compile Regex.dialect = .ok j ∧ j r = none := by
  intro parts r
  have hne : parts ≠ [] := List.cons_ne_nil _ _
  have h := ((negation_duality Regex.dialect "f" .always parts).2.2.2.2 hne).2
  exact ⟨hne, h, _, h.compile.symm.trans rfl, rfl⟩

end Condition
end NestedData
