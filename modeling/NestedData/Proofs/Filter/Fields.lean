import NestedData.Filter.Basic
import NestedData.Proofs.Filter.Parts
import NestedData.Regex.Dialect
/-!
Which part of a record a filter looks at. A judgement depends on the fields that its condition lists
and on nothing else in the record, so that records may be cut down to these fields.
-/

namespace NestedData

namespace Judgement

/-- Records with the same values in the fields are judged alike. -/
def DependsOn (fields : List String) (j : Judgement) : Prop :=
  ∀ r s : Value, (∀ k ∈ fields, r.field? k = s.field? k) → j r = j s

variable {fields : List String} {f : String} {j k : Judgement} {js : List Judgement}

theorem DependsOn.mono (h : DependsOn fields j) {more : List String} (hs : fields ⊆ more) :
    DependsOn more j := by
  intro r s hr
  exact h r s fun k hk => hr k (hs hk)

theorem dependsOn_constant (b : Bool) : DependsOn fields (constant b) := by
  intro r s _
  rfl

theorem dependsOn_onField (hf : f ∈ fields) (j : Judgement) : DependsOn fields (onField f j) := by
  intro r s hr
  unfold onField
  rw [hr f hf]

theorem DependsOn.not (h : DependsOn fields j) : DependsOn fields j.not := by
  intro r s hr
  exact congrArg (Option.map (!·)) (h r s hr)

theorem DependsOn.and (hj : DependsOn fields j) (hk : DependsOn fields k) :
    DependsOn fields (j.and k) := by
  intro r s hr
  unfold Judgement.and
  rw [hj r s hr, hk r s hr]

theorem DependsOn.or (hj : DependsOn fields j) (hk : DependsOn fields k) :
    DependsOn fields (j.or k) := by
  rw [or_eq_not_and_not]
  exact (hj.not.and hk.not).not

theorem dependsOn_all (h : ∀ j ∈ js, DependsOn fields j) : DependsOn fields (all js) := by
  induction js with
  | nil => exact dependsOn_constant true
  | cons j js ih =>
    obtain ⟨hj, hjs⟩ := List.forall_mem_cons.1 h
    exact hj.and (ih hjs)

theorem dependsOn_any (h : ∀ j ∈ js, DependsOn fields j) : DependsOn fields (any js) := by
  induction js with
  | nil => exact dependsOn_constant false
  | cons j js ih =>
    obtain ⟨hj, hjs⟩ := List.forall_mem_cons.1 h
    exact hj.or (ih hjs)

theorem dependsOn_between (hf : f ∈ fields) (low high : Option Value) :
    DependsOn fields (between f low high) := by
  cases low with
  | none =>
    cases high with
    | none => exact dependsOn_constant true
    | some high => exact dependsOn_onField hf _
  | some low =>
    cases high with
    | none => exact dependsOn_onField hf _
    | some high => exact (dependsOn_onField hf _).and (dependsOn_onField hf _)

theorem dependsOn_oneOf (hf : f ∈ fields) (literals : List Value) :
    DependsOn fields (oneOf f literals) := by
  have hcases : ∀ vs, unseen [] literals = vs → DependsOn fields (oneOf f literals) := by
    intro vs hvs
    unfold oneOf
    rw [hvs]
    match vs with
    | [] => exact dependsOn_constant false
    | [v] => exact dependsOn_onField hf _
    | v :: w :: ws => exact dependsOn_onField hf _
  exact hcases _ rfl

theorem dependsOn_text {engine : Regex.Engine} (hf : f ∈ fields) {test : TextTest}
    {pattern : String} (h : text engine f test pattern = .ok j) : DependsOn fields j := by
  obtain ⟨seen, rfl⟩ : ∃ seen, j = onText f seen := by
    cases test with
    | startsWith => exact ⟨_, (Except.ok.inj h).symm⟩
    | endsWith => exact ⟨_, (Except.ok.inj h).symm⟩
    | contains => exact ⟨_, (Except.ok.inj h).symm⟩
    | «matches» =>
      unfold text at h
      cases hp : engine.ofDelimited? pattern with
      | none => rw [hp] at h; cases h
      | some p => rw [hp] at h; exact ⟨_, (Except.ok.inj h).symm⟩
  exact dependsOn_onField hf _

end Judgement

namespace Condition

open Judgement

theorem mem_distinct {k : String} (names : List String) : k ∈ distinct names ↔ k ∈ names := by
  have hseen : ∀ seen : List String,
      k ∈ names.foldl (fun seen n => if n ∈ seen then seen else seen ++ [n]) seen ↔
        k ∈ seen ∨ k ∈ names := by
    induction names with
    | nil => simp
    | cons n names ih =>
      intro seen
      rw [List.foldl_cons, ih, List.mem_cons]
      by_cases hn : n ∈ seen
      · rw [if_pos hn]
        constructor
        · exact Or.imp_right Or.inr
        · rintro (h | rfl | h)
          · exact Or.inl h
          · exact Or.inl hn
          · exact Or.inr h
      · rw [if_neg hn, List.mem_append, List.mem_singleton, or_assoc]
  have hnil := hseen []
  rwa [List.mem_nil_iff, false_or] at hnil

variable {engine : Regex.Engine} {c : Condition} {j : Judgement}

theorem dependsOn_of_isLeaf (hc : c.isLeaf = true) (h : c.compile engine = .ok j) :
    DependsOn c.asked j := by
  cases c with
  | compare f c v => cases h; exact dependsOn_onField (by simp [asked]) _
  | between f low high => cases h; exact dependsOn_between (by simp [asked]) low high
  | oneOf f vs => cases h; exact dependsOn_oneOf (by simp [asked]) vs
  | text f t p => exact dependsOn_text (by simp [asked]) h
  | all | any | not | group => cases hc

theorem dependsOn_parts {parts : List Condition} {js : List Judgement}
    (h : Compiled engine parts js)
    (ih : ∀ c ∈ parts, ∀ j, c.compile engine = .ok j → DependsOn c.asked j) :
    ∀ j ∈ js, DependsOn (askedOf parts) j := by
  induction h with
  | nil => simp
  | @cons c j parts js hj _ ihs =>
    rw [askedOf]
    rw [List.forall_mem_cons] at ih ⊢
    constructor
    · exact (ih.1 j hj).mono (List.subset_append_left _ _)
    · intro k hk
      exact (ihs ih.2 k hk).mono (List.subset_append_right _ _)

/-- A condition that compiles asks about the fields that it lists, and about nothing else. -/
theorem dependsOn_asked (h : c.compile engine = .ok j) : DependsOn c.asked j := by
  induction c generalizing j with
  | all parts ih =>
    obtain ⟨js, hjs, rfl⟩ := compile_all.1 h
    exact dependsOn_all (dependsOn_parts hjs fun c hc j => ih c hc)
  | any parts ih =>
    obtain ⟨js, hjs, rfl⟩ := compile_any.1 h
    exact dependsOn_any (dependsOn_parts hjs fun c hc j => ih c hc)
  | not c ih =>
    obtain ⟨k, hk, rfl⟩ := compile_not.1 h
    exact (ih hk).not
  | group f c ih =>
    obtain ⟨k, hk, rfl⟩ := compile_group.1 h
    exact dependsOn_onField (by simp [asked]) k
  | leaf c hc => exact dependsOn_of_isLeaf hc h

theorem dependsOn_fields (h : c.compile engine = .ok j) : DependsOn c.fields j :=
  (dependsOn_asked h).mono fun _ hk => (mem_distinct _).2 hk

end Condition

namespace Filter

def restrict (f : Filter) (members : List (String × Value)) : List (String × Value) :=
  members.filter fun e => e.1 ∈ f.fields

theorem get?_restrict {f : Filter} {k : String} (hk : k ∈ f.fields)
    (members : List (String × Value)) : Dict.get? k (f.restrict members) = Dict.get? k members := by
  induction members with
  | nil => rfl
  | cons e members ih =>
    obtain ⟨l, v⟩ := e
    unfold restrict at ih ⊢
    by_cases hl : l ∈ f.fields
    · rw [List.filter_cons_of_pos (by simpa using hl), Dict.get?, Dict.get?, ih]
    · have hlk : l ≠ k := fun h => hl (h ▸ hk)
      rw [List.filter_cons_of_neg (by simpa using hl), Dict.get?, if_neg hlk, ih]

/-- Records that agree on the fields of a condition get one verdict, so that a filter selects and
rejects the same of records that are cut down to the members it asks about. -/
theorem verdict_eq_of_fields {engine : Regex.Engine} {c : Condition} {j : Judgement}
    (h : c.compile engine = .ok j) :
    (∀ r s : Value, (∀ k ∈ c.fields, r.field? k = s.field? k) → j r = j s) ∧
    ∀ options, ∃ f, ofCondition engine c options = .ok f ∧ f.fields = c.fields ∧ f.judge = j ∧
      ∀ members, f.selects (.object (f.restrict members)) = f.selects (.object members) ∧
        f.rejects (.object (f.restrict members)) = f.rejects (.object members) := by
  have hj : j.DependsOn c.fields := Condition.dependsOn_fields h
  refine ⟨hj, fun options => ?_⟩
  let f : Filter := { condition := c, judge := j, options }
  refine ⟨f, by rw [ofCondition, h]; rfl, rfl, rfl, fun members => ?_⟩
  have hv : f.judge (.object (f.restrict members)) = f.judge (.object members) :=
    hj _ _ fun k hk => get?_restrict hk members
  unfold selects rejects
  rw [hv]
  exact ⟨rfl, rfl⟩

/-- A negation, a group and an open range, asked of two records that share three fields. -/
theorem verdict_eq_of_three_fields :
    let c : Condition := .all [.not (.oneOf "a" [.null, .bool true]),
      .group "b" (.compare "c" .eq .null), .any [.between "d" (some (.string "x")) none]]
    let r : Value := .object [("a", .null), ("b", .object [("c", .null)]), ("e", .bool true)]
    let s : Value := .object [("c", .null), ("b", .object [("c", .null)]), ("a", .null)]
    c.fields = ["a", "b", "d"] ∧ ∃ j, c.compile Regex.dialect = .ok j ∧ j r = j s := by
  intro c r s
  have hc : c.fields = ["a", "b", "d"] := by decide
  obtain ⟨j, hj⟩ : ∃ j, c.compile Regex.dialect = .ok j := ⟨_, rfl⟩
  refine ⟨hc, j, hj, (verdict_eq_of_fields hj).1 r s ?_⟩
  rw [hc]
  simp only [List.forall_mem_cons]
  exact ⟨rfl, rfl, rfl, by simp⟩

end Filter
end NestedData
