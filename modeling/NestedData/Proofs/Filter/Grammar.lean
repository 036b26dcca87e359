import NestedData.Proofs.Filter.FieldOperators
/-!
The grammar of filter specifications. A document is read after its dotted keys are expanded, the
operands of operators as they are written; what is read is just what the grammar has. A condition
that has been read can be judged unless a match in it asks for a pattern that is none.
-/

namespace NestedData

def Operator.takesAny : Operator → Bool
  | .eq | .gt | .lt | .gte | .lte | .oneOf => true
  | _ => false

def Operator.takesText : Operator → Bool
  | .startsWith | .endsWith | .contains | .matches => true
  | _ => false

theorem Operator.isLogical_of_takesAny (op : Operator) (h : op.takesAny = true) :
    op.isLogical = false := by
  cases op <;> trivial

theorem Operator.isLogical_of_takesText (op : Operator) (h : op.takesText = true) :
    op.isLogical = false := by
  cases op <;> trivial

namespace Condition

mutual
def patterns : Condition → List String
  | .all parts => patternsOf parts
  | .any parts => patternsOf parts
  | .not c => patterns c
  | .group _ c => patterns c
  | .text _ .matches pattern => [pattern]
  | _ => []

def patternsOf : List Condition → List String
  | [] => []
  | c :: rest => patterns c ++ patternsOf rest
end

theorem mem_patternsOf {pattern : String} {parts : List Condition} :
    pattern ∈ patternsOf parts ↔ ∃ c ∈ parts, pattern ∈ c.patterns := by
  induction parts with
  | nil => simp [patternsOf]
  | cons c parts ih => simp [patternsOf, ih]

end Condition

namespace Filter

mutual
/-- A document asks with each of the entries that it expands to. -/
inductive ValidDocument : Document → Prop where
  | entries {d : Document} (h : ∀ e ∈ expand d, ValidEntry e.1 e.2) : ValidDocument d

/-- An entry combines documents, negates one, or asks a field for a literal or by a mapping. -/
inductive ValidEntry : String → Value → Prop where
  | junction (k : Junction) {ds : List Document} (ne : ds ≠ []) (h : ∀ d ∈ ds, ValidDocument d) :
      ValidEntry k.operator.key (.array (ds.map .object))
  | not {d : Document} (h : ValidDocument d) : ValidEntry Operator.not.key (.object d)
  | literal {key : String} {v : Value} (hk : isOperatorKey key = false)
      (hv : v.isObject = false) : ValidEntry key v
  | field {key : String} {d : Document} (hk : isOperatorKey key = false)
      (h : ValidMapping d) : ValidEntry key (.object d)

/-- A mapping asks a field by a document for what it holds, or by one operator. -/
inductive ValidMapping : Document → Prop where
  | document {d : Document} (ne : d ≠ []) (plain : hasOperator d = false) (h : ValidDocument d) :
      ValidMapping d
  | operator {op : Operator} {v : Value} (h : ValidOperand op v) : ValidMapping [(op.key, v)]

inductive ValidOperand : Operator → Value → Prop where
  | any {op : Operator} (h : op.takesAny = true) (v : Value) : ValidOperand op v
  | range {v : Value} (h : ∀ items, v = .array items → items.length ≤ 2) : ValidOperand .between v
  | text {op : Operator} {v : Value} (h : op.takesText = true)
      (hv : (∃ s, v = .string s) ∨ ∃ n, v = .number n) : ValidOperand op v
  | not {d : Document} (h : ValidMapping d) : ValidOperand .not (.object d)
  | junction (k : Junction) {ds : List Document} (ne : ds ≠ []) (h : ∀ d ∈ ds, ValidMapping d) :
      ValidOperand k.operator (.array (ds.map .object))
end

def Accepted {α : Type} (r : SpecResult α) : Prop := ∃ a, r = .ok a

variable {α β : Type} {key field : String} {v : Value} {d : Document} {op : Operator}
  {items : List Value} {m n : ℕ}

theorem accepted_ok (a : α) : Accepted (.ok a : SpecResult α) := ⟨a, rfl⟩

theorem not_accepted_error (e : SpecError) : ¬ Accepted (.error e : SpecResult α) := by
  rintro ⟨a, h⟩
  cases h

theorem accepted_map {f : α → β} {r : SpecResult α} : Accepted (r.map f) ↔ Accepted r := by
  cases r with
  | error e => exact iff_of_false (not_accepted_error e) (not_accepted_error e)
  | ok a => exact iff_of_true (accepted_ok (f a)) (accepted_ok a)

theorem accepted_bind {r : SpecResult α} {f : α → SpecResult β} :
    Accepted (r >>= f) ↔ ∃ a, r = .ok a ∧ Accepted (f a) := by
  constructor
  · rintro ⟨b, hb⟩
    obtain ⟨a, ha, hab⟩ := bind_eq_ok_iff.1 hb
    exact ⟨a, ha, b, hab⟩
  · rintro ⟨a, rfl, h⟩
    exact h

theorem accepted_cons {r : SpecResult α} {rs : SpecResult (List α)} :
    Accepted (do
      let a ← r
      let as ← rs
      return a :: as) ↔ Accepted r ∧ Accepted rs := by
  rw [accepted_bind]
  constructor
  · rintro ⟨a, ha, h⟩
    obtain ⟨as, has, -⟩ := accepted_bind.1 h
    exact ⟨⟨a, ha⟩, as, has⟩
  · rintro ⟨⟨a, ha⟩, as, has⟩
    exact ⟨a, ha, accepted_bind.2 ⟨as, has, accepted_ok _⟩⟩

theorem accepted_mapM {f : α → SpecResult β} {xs : List α} :
    Accepted (xs.mapM f) ↔ ∀ x ∈ xs, Accepted (f x) := by
  induction xs with
  | nil => exact iff_of_true (accepted_ok []) (by simp)
  | cons x xs ih =>
    rw [List.mapM_cons, accepted_cons, ih, List.forall_mem_cons]

theorem accepted_items {F : List Value → SpecResult (List Condition)}
    {g : Document → SpecResult Condition} (nil : F [] = .ok [])
    (cons : ∀ d rest, F (.object d :: rest) = do
      let c ← g d
      let cs ← F rest
      return c :: cs)
    (other : ∀ v rest, v.isObject = false → ¬ Accepted (F (v :: rest))) :
    Accepted (F items) ↔
      ∃ ds : List Document, items = ds.map .object ∧ ∀ d ∈ ds, Accepted (g d) := by
  induction items with
  | nil => exact iff_of_true ⟨[], nil⟩ ⟨[], rfl, by simp⟩
  | cons v rest ih =>
    by_cases hv : v.isObject = true
    · obtain ⟨d, rfl⟩ := Value.isObject_iff.1 hv
      rw [cons, accepted_cons, ih]
      constructor
      · rintro ⟨hd, ds, rfl, hds⟩
        exact ⟨d :: ds, rfl, List.forall_mem_cons.2 ⟨hd, hds⟩⟩
      · rintro ⟨ds, hds, h⟩
        cases ds with
        | nil => cases hds
        | cons d' ds =>
          obtain ⟨hd, rfl⟩ := List.cons.inj hds
          obtain rfl := Value.object.inj hd
          rw [List.forall_mem_cons] at h
          exact ⟨h.1, ds, rfl, h.2⟩
    · refine iff_of_false (other v rest (Bool.eq_false_iff.2 hv)) ?_
      rintro ⟨ds, hds, -⟩
      cases ds with
      | nil => cases hds
      | cons d ds =>
        obtain ⟨rfl, -⟩ := List.cons.inj hds
        exact hv rfl

theorem accepted_documents (op : Operator) : Accepted (documents op items) ↔
    ∃ ds : List Document, items = ds.map .object ∧ ∀ d ∈ ds, Accepted (document d) := by
  refine accepted_items (by rw [documents]) (fun d rest => by rw [documents]) ?_
  intro v rest hv
  cases v with
  | object d => cases hv
  | null | bool | number | string | array =>
    rw [documents.eq_def]
    exact not_accepted_error _

theorem accepted_fieldSpecs (field : String) (op : Operator) :
    Accepted (fieldSpecs field op items) ↔
      ∃ ds : List Document, items = ds.map .object ∧ ∀ d ∈ ds, Accepted (fieldSpec field d) := by
  refine accepted_items (by rw [fieldSpecs]) (fun d rest => by rw [fieldSpecs]) ?_
  intro v rest hv
  cases v with
  | object d => cases hv
  | null | bool | number | string | array =>
    rw [fieldSpecs.eq_def]
    exact not_accepted_error _

def Below (P : Document → Prop) (n : ℕ) : Prop := ∀ d, weightMembers d < n → P d

variable {P : Document → Prop}

theorem Below.mono (h : Below P n) (hmn : m ≤ n) : Below P m := by
  intro d hd
  apply h d
  omega

theorem Below.of_object (h : Below P (weight (.object d))) : P d := by
  apply h d
  rw [weight]
  omega

theorem Below.of_mem {ds : List Document} (h : Below P (weight (.array (ds.map .object))))
    (hd : d ∈ ds) : P d := by
  apply Below.of_object
  apply h.mono
  exact Nat.le_of_lt (weight_lt_array (List.mem_map_of_mem hd))

/-- A property of documents holds if it passes from all lighter ones to each. -/
theorem below_of_step (step : ∀ d, Below P (weightMembers d) → P d) (n : ℕ) : Below P n := by
  induction n with
  | zero =>
    intro d hd
    omega
  | succ n ih =>
    intro d hd
    apply step
    apply ih.mono
    omega

/-- The document is accepted, and is as a mapping, just when the grammar has it. -/
structure Agrees (d : Document) : Prop where
  document : Accepted (document d) ↔ ValidDocument d
  mapping : ∀ field, Accepted (fieldSpec field d) ↔ ValidMapping d

def AgreesBelow (n : ℕ) : Prop := ∀ d, weightMembers d < n → Agrees d

theorem AgreesBelow.mono (h : AgreesBelow n) (hmn : m ≤ n) : AgreesBelow m := Below.mono h hmn

theorem AgreesBelow.of_object (h : AgreesBelow (weight (.object d))) : Agrees d :=
  Below.of_object h

theorem AgreesBelow.of_mem {ds : List Document} (h : AgreesBelow (weight (.array (ds.map .object))))
    (hd : d ∈ ds) : Agrees d :=
  Below.of_mem h hd

theorem accepted_combination {read : Value → SpecResult Condition}
    {F : List Value → SpecResult (List Condition)} {g : Document → SpecResult Condition}
    {combine : List Condition → Condition} {e : SpecError} {P : Document → Prop}
    (array : ∀ items, read (.array items) =
      if items = [] then .error e else (F items).map combine)
    (other : ∀ v, v.items? = none → ¬ Accepted (read v))
    (each : ∀ items, Accepted (F items) ↔
      ∃ ds : List Document, items = ds.map .object ∧ ∀ d ∈ ds, Accepted (g d))
    (valid : ∀ ds : List Document, v = .array (ds.map .object) →
      ∀ d ∈ ds, (Accepted (g d) ↔ P d)) :
    Accepted (read v) ↔
      ∃ ds : List Document, ds ≠ [] ∧ v = .array (ds.map .object) ∧ ∀ d ∈ ds, P d := by
  cases v with
  | array items =>
    rw [array]
    by_cases hnil : items = []
    · rw [if_pos hnil]
      refine iff_of_false (not_accepted_error e) ?_
      rintro ⟨ds, hne, hds, -⟩
      rw [hnil, Value.array.injEq] at hds
      exact hne (List.map_eq_nil_iff.1 hds.symm)
    · rw [if_neg hnil, accepted_map, each]
      constructor
      · rintro ⟨ds, rfl, hds⟩
        have hne : ds ≠ [] := fun hn => hnil (List.map_eq_nil_iff.2 hn)
        exact ⟨ds, hne, rfl, fun d hd => (valid ds rfl d hd).1 (hds d hd)⟩
      · rintro ⟨ds, -, hds, hvalid⟩
        obtain rfl := Value.array.inj hds
        exact ⟨ds, rfl, fun d hd => (valid ds rfl d hd).2 (hvalid d hd)⟩
  | null | bool | number | string | object =>
    refine iff_of_false (other _ rfl) ?_
    rintro ⟨ds, -, hds, -⟩
    cases hds

theorem accepted_entry_junction (k : Junction) (h : AgreesBelow (weight v)) :
    Accepted (entry k.operator.key v) ↔
      ∃ ds : List Document, ds ≠ [] ∧ v = .array (ds.map .object) ∧ ∀ d ∈ ds, ValidDocument d := by
  refine accepted_combination (entry_junction k) ?_ (fun _ => accepted_documents _) ?_
  · intro v hv
    rw [entry.eq_def, if_pos k.operator.isOperatorKey_key, k.operator.ofKey?_key]
    cases v with
    | array items => cases hv
    | null | bool | number | string | object => cases k <;> exact not_accepted_error _
  · rintro ds rfl d hd
    exact (h.of_mem hd).document

theorem accepted_operator_junction (k : Junction) (h : AgreesBelow (weight v)) :
    Accepted (operator field k.operator v) ↔
      ∃ ds : List Document, ds ≠ [] ∧ v = .array (ds.map .object) ∧ ∀ d ∈ ds, ValidMapping d := by
  refine accepted_combination (operator_junction k field) ?_ (fun _ => accepted_fieldSpecs _ _) ?_
  · intro v hv
    cases v with
    | array items => cases hv
    | null | bool | number | string | object =>
      cases k <;> rw [operator.eq_def] <;> exact not_accepted_error _
  · rintro ds rfl d hd
    exact (h.of_mem hd).mapping field

theorem accepted_entry_not (h : AgreesBelow (weight v)) :
    Accepted (entry Operator.not.key v) ↔ ∃ d, v = .object d ∧ ValidDocument d := by
  cases v with
  | object d =>
    rw [entry_not, accepted_map, h.of_object.document]
    simp
  | null | bool | number | string | array =>
    rw [entry.eq_def, if_pos Operator.not.isOperatorKey_key, Operator.not.ofKey?_key]
    refine iff_of_false (not_accepted_error _) ?_
    rintro ⟨d, hd, -⟩
    cases hd

theorem accepted_entry (h : AgreesBelow (weight v)) :
    Accepted (entry key v) ↔ ValidEntry key v := by
  constructor
  · intro ha
    by_cases hk : isOperatorKey key = true
    · cases hop : Operator.ofKey? key with
      | none =>
        rw [entry.eq_def, if_pos hk, hop] at ha
        exact absurd ha (not_accepted_error _)
      | some op =>
        obtain rfl := Operator.key_of_ofKey? hop
        cases op with
        | and =>
          obtain ⟨ds, hne, rfl, hds⟩ := (accepted_entry_junction .all h).1 ha
          exact .junction .all hne hds
        | or =>
          obtain ⟨ds, hne, rfl, hds⟩ := (accepted_entry_junction .any h).1 ha
          exact .junction .any hne hds
        | not =>
          obtain ⟨d, rfl, hd⟩ := (accepted_entry_not h).1 ha
          exact .not hd
        | eq | gt | lt | gte | lte | between | oneOf | startsWith | endsWith | contains
        | «matches» =>
          rw [entry.eq_def, if_pos hk, hop] at ha
          exact absurd ha (not_accepted_error _)
    · have hplain : isOperatorKey key = false := Bool.eq_false_iff.2 hk
      cases v with
      | object d =>
        rw [entry_field hplain] at ha
        exact .field hplain ((h.of_object.mapping key).1 ha)
      | null | bool | number | string | array => exact .literal hplain rfl
  · intro hv
    cases hv with
    | junction k hne hds => exact (accepted_entry_junction k h).2 ⟨_, hne, rfl, hds⟩
    | not hd => exact (accepted_entry_not h).2 ⟨_, rfl, hd⟩
    | literal hk hv =>
      rw [entry_literal hk hv]
      exact accepted_ok _
    | field hk hd =>
      rw [entry_field hk]
      exact (h.of_object.mapping key).2 hd

theorem accepted_textOperand (op : Operator) : Accepted (textOperand op v) ↔
    (∃ s, v = .string s) ∨ ∃ n, v = .number n := by
  cases v with
  | string | number => exact iff_of_true (accepted_ok _) (by simp)
  | null | bool | array | object => exact iff_of_false (not_accepted_error _) (by simp)

theorem accepted_text (hop : op.takesText = true) : Accepted (leafCondition field op v) ↔
    (∃ s, v = .string s) ∨ ∃ n, v = .number n := by
  cases op with
  | startsWith | endsWith | contains | «matches» =>
    rw [leafCondition, accepted_map, accepted_textOperand]
  | _ => cases hop

theorem accepted_any (hop : op.takesAny = true) : Accepted (leafCondition field op v) := by
  cases op with
  | eq | gt | lt | gte | lte | oneOf => exact accepted_ok _
  | _ => cases hop

theorem accepted_range : Accepted (leafCondition field .between v) ↔
    ∀ items, v = .array items → items.length ≤ 2 := by
  cases v with
  | array items =>
    rw [leafCondition, literals]
    rcases items with _ | ⟨low, _ | ⟨high, _ | ⟨more, rest⟩⟩⟩
    · exact iff_of_true (accepted_ok _) (by simp)
    · exact iff_of_true (accepted_ok _) (by simp)
    · exact iff_of_true (accepted_ok _) (by simp)
    · refine iff_of_false (not_accepted_error _) fun hlength => ?_
      have := hlength _ rfl
      simp only [List.length_cons] at this
      omega
  | null | bool | number | string | object => exact iff_of_true (accepted_ok _) (by simp)

theorem accepted_operator_not (h : AgreesBelow (weight v)) :
    Accepted (operator field .not v) ↔ ∃ d, v = .object d ∧ ValidMapping d := by
  cases v with
  | object d =>
    rw [operator.eq_def, accepted_map, h.of_object.mapping field]
    simp
  | null | bool | number | string | array =>
    rw [operator.eq_def]
    refine iff_of_false (not_accepted_error _) ?_
    rintro ⟨d, hd, -⟩
    cases hd

theorem operator_leaf (hop : op.isLogical = false) :
    operator field op v = leafCondition field op v := by
  rw [operator.eq_def]
  cases op with
  | and | or | not => cases hop
  | _ => rfl

theorem accepted_operator_leaf (hop : op.isLogical = false) :
    Accepted (operator field op v) ↔ Accepted (leafCondition field op v) := by
  rw [operator_leaf hop]

theorem accepted_operator (h : AgreesBelow (weight v)) :
    Accepted (operator field op v) ↔ ValidOperand op v := by
  constructor
  · intro ha
    cases op with
    | and =>
      obtain ⟨ds, hne, rfl, hds⟩ := (accepted_operator_junction .all h).1 ha
      exact .junction .all hne hds
    | or =>
      obtain ⟨ds, hne, rfl, hds⟩ := (accepted_operator_junction .any h).1 ha
      exact .junction .any hne hds
    | not =>
      obtain ⟨d, rfl, hd⟩ := (accepted_operator_not h).1 ha
      exact .not hd
    | between => exact .range (accepted_range.1 ((accepted_operator_leaf rfl).1 ha))
    | eq | gt | lt | gte | lte | oneOf => exact .any rfl v
    | startsWith | endsWith | contains | «matches» =>
      exact .text rfl ((accepted_text rfl).1 ((accepted_operator_leaf rfl).1 ha))
  · intro hv
    cases hv with
    | any hop => exact (accepted_operator_leaf (op.isLogical_of_takesAny hop)).2 (accepted_any hop)
    | range hlength => exact (accepted_operator_leaf rfl).2 (accepted_range.2 hlength)
    | text hop hv =>
      exact (accepted_operator_leaf (op.isLogical_of_takesText hop)).2 ((accepted_text hop).2 hv)
    | not hd => exact (accepted_operator_not h).2 ⟨_, rfl, hd⟩
    | junction k hne hds => exact (accepted_operator_junction k h).2 ⟨_, hne, rfl, hds⟩

theorem accepted_document (h : AgreesBelow (weightMembers d)) :
    Accepted (document d) ↔ ValidDocument d := by
  have hread : Accepted (document d) ↔ ∀ e ∈ expand d, Accepted (entry e.1 e.2) := by
    rw [document_eq, accepted_map, entries_eq_mapM]
    exact accepted_mapM
  have hentry : ∀ e ∈ expand d, (Accepted (entry e.1 e.2) ↔ ValidEntry e.1 e.2) := by
    intro e he
    apply accepted_entry
    apply h.mono
    exact (weight_lt_members he).le.trans (weightMembers_expand_le d)
  rw [hread]
  constructor
  · intro ha
    exact .entries fun e he => (hentry e he).1 (ha e he)
  · rintro ⟨hv⟩ e he
    exact (hentry e he).2 (hv e he)

theorem accepted_fieldSpec (hd : Accepted (document d) ↔ ValidDocument d)
    (h : AgreesBelow (weightMembers d)) (field : String) :
    Accepted (fieldSpec field d) ↔ ValidMapping d := by
  constructor
  · intro ha
    by_cases hplain : (!hasOperator d && !d.isEmpty) = true
    · rw [fieldSpec.eq_def, if_pos hplain, accepted_map, hd] at ha
      simp only [Bool.and_eq_true, Bool.not_eq_true', List.isEmpty_eq_false_iff] at hplain
      exact .document hplain.2 hplain.1 ha
    · rw [fieldSpec.eq_def, if_neg hplain] at ha
      match d with
      | [(key, v)] =>
        dsimp only at ha
        cases hop : Operator.ofKey? key with
        | none =>
          rw [hop] at ha
          exact absurd ha (not_accepted_error _)
        | some op =>
          rw [hop] at ha
          obtain rfl := Operator.key_of_ofKey? hop
          refine .operator ((accepted_operator ?_).1 ha)
          exact h.mono (weight_lt_members List.mem_cons_self).le
      | [] | _ :: _ :: _ => exact absurd ha (not_accepted_error _)
  · intro hv
    cases hv with
    | document hne hplain hdoc =>
      rw [fieldSpec.eq_def, hplain, List.isEmpty_eq_false_iff.2 hne]
      exact accepted_map.2 (hd.2 hdoc)
    | operator hoperand =>
      rw [fieldSpec_operator]
      refine (accepted_operator ?_).2 hoperand
      exact h.mono (weight_lt_members List.mem_cons_self).le

theorem agreesBelow (n : ℕ) : AgreesBelow n := by
  apply below_of_step
  intro d h
  have hdocument := accepted_document h
  exact ⟨hdocument, accepted_fieldSpec hdocument h⟩

theorem accepted_document_iff (d : Document) : Accepted (document d) ↔ ValidDocument d :=
  accepted_document (agreesBelow _)

theorem accepted_fieldSpec_iff (field : String) (d : Document) :
    Accepted (fieldSpec field d) ↔ ValidMapping d :=
  accepted_fieldSpec (accepted_document_iff d) (agreesBelow _) field

theorem accepted_compile (engine : Regex.Engine) (c : Condition) : Accepted (c.compile engine) ↔
    ∀ pattern ∈ c.patterns, (engine.ofDelimited? pattern).isSome := by
  have hparts {parts : List Condition} (ih : ∀ c ∈ parts, (Accepted (c.compile engine) ↔
      ∀ pattern ∈ c.patterns, (engine.ofDelimited? pattern).isSome)) :
      Accepted (Condition.compileParts engine parts) ↔ ∀ pattern ∈ Condition.patternsOf parts,
        (engine.ofDelimited? pattern).isSome := by
    rw [Condition.compileParts_eq_mapM, accepted_mapM, forall₂_congr ih]
    constructor
    · intro h pattern hp
      obtain ⟨c, hc, hcp⟩ := Condition.mem_patternsOf.1 hp
      exact h c hc pattern hcp
    · intro h c hc pattern hcp
      exact h pattern (Condition.mem_patternsOf.2 ⟨c, hc, hcp⟩)
  induction c with
  | all parts ih | any parts ih =>
    rw [Condition.compile, accepted_map, hparts ih, Condition.patterns]
  | not c ih | group field c ih =>
    rw [Condition.compile, accepted_map, Condition.patterns]
    exact ih
  | leaf c hleaf =>
    cases c with
    | all | any | not | group => cases hleaf
    | compare | between | oneOf => exact iff_of_true (accepted_ok _) (by simp [Condition.patterns])
    | text field test pattern =>
      cases test with
      | startsWith | endsWith | contains =>
        exact iff_of_true (accepted_ok _) (by simp [Condition.patterns])
      | «matches» =>
        rw [Condition.compile, Judgement.text, Condition.patterns, List.forall_mem_singleton]
        cases engine.ofDelimited? pattern with
        | none => exact iff_of_false (not_accepted_error _) (by simp)
        | some p => exact iff_of_true (accepted_ok _) rfl

/-- A specification is read just when it is null or a document of the grammar. What is read can be
judged just when each pattern that it asks for is one. -/
theorem ofSpec_isOk_iff_grammar (engine : Regex.Engine) (spec : Value) :
    ((∃ c, Condition.ofSpec spec = .ok c) ↔
      spec = .null ∨ ∃ d, spec = .object d ∧ ValidDocument d) ∧
    ∀ c, Condition.ofSpec spec = .ok c →
      ((∃ j, c.compile engine = .ok j) ↔
        ∀ pattern ∈ c.patterns, (engine.ofDelimited? pattern).isSome) := by
  refine ⟨?_, fun c _ => accepted_compile engine c⟩
  cases spec with
  | null => exact iff_of_true (accepted_ok _) (Or.inl rfl)
  | object d =>
    refine (accepted_document_iff d).trans ?_
    simp
  | bool | number | string | array =>
    refine iff_of_false (not_accepted_error _) ?_
    simp

/-- Dotted keys of which one leads to an operator, and a pattern inside an alternative. -/
theorem ofSpec_isOk_iff_grammar_dotted :
    let spec : Value := .object [("a.b", .object [("$or", .array
      [.object [("$regex", .string "/^$/m")], .object [("$not", .object [("$eq", .null)])]])]),
      ("c.$in", .null)]
    ∃ c, Condition.ofSpec spec = .ok c ∧ c.patterns = ["/^$/m"] ∧
      (∃ j, c.compile Regex.dialect = .ok j) ∧ ∃ d, spec = .object d ∧ ValidDocument d := by
  intro spec
  obtain ⟨c, hc, hp⟩ : ∃ c, Condition.ofSpec spec = .ok c ∧ c.patterns = ["/^$/m"] :=
    ⟨_, by cbv, by cbv⟩
  obtain ⟨hread, hjudge⟩ := ofSpec_isOk_iff_grammar Regex.dialect spec
  have hpattern : (Regex.dialect.ofDelimited? "/^$/m").isSome := by decide +kernel
  have hspec : spec ≠ .null := by simp [spec]
  refine ⟨c, hc, hp, (hjudge c hc).2 ?_, (hread.1 ⟨c, hc⟩).resolve_left hspec⟩
  rw [hp, List.forall_mem_singleton]
  exact hpattern

end Filter
end NestedData
