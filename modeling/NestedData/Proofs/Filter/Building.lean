import NestedData.Filter.Builder
import NestedData.Proofs.Filter.Junctions
import NestedData.Regex.Dialect
/-!
What filters built step by step mean. However the steps are nested, the specification that they
build is read just when each condition in them is read by itself and no branches are missing; the
filter then judges as the steps do, one after the other.
-/

namespace NestedData.Filter

section Meaning

variable (engine : Regex.Engine)

def judgeOf (spec : Value) : Judgement := fun r =>
  match ofSpec engine spec with
  | .ok f => f.judge r
  | .error _ => none

def Step.condition? : Step → Option Value
  | .ask field op operand => some (.object [(field, .object [(op.key, operand)])])
  | .clause spec => some spec
  | _ => none

mutual
def Step.subSteps : Step → List Step
  | .or branches => .or branches :: branchSubSteps branches
  | .and branches => .and branches :: branchSubSteps branches
  | .not branch => .not branch :: subSteps branch
  | s => [s]

def subSteps : List Step → List Step
  | [] => []
  | s :: rest => s.subSteps ++ subSteps rest

def branchSubSteps : List (List Step) → List Step
  | [] => []
  | b :: rest => subSteps b ++ branchSubSteps rest
end

mutual
/-- What a step says of a record. A condition says what the filter of its own specification says;
branches are judged from left to right; options say nothing of records. -/
def Step.meaning : Step → Judgement
  | .ask field op operand => judgeOf engine (.object [(field, .object [(op.key, operand)])])
  | .clause spec => judgeOf engine spec
  | .or branches => .any (branchMeanings branches)
  | .and branches => .all (branchMeanings branches)
  | .not branch => (meaning branch).not
  | .project _ => .constant true
  | .projectSpec _ => .constant true
  | .strictProjection => .constant true

def meaning : List Step → Judgement
  | [] => .constant true
  | s :: rest => s.meaning.and (meaning rest)

def branchMeanings : List (List Step) → List Judgement
  | [] => []
  | b :: rest => meaning b :: branchMeanings rest
end

end Meaning

def Junction.step : Junction → List (List Step) → Step
  | .all => .and
  | .any => .or

@[elab_as_elim, induction_eliminator]
theorem Step.induct {motive : Step → Prop}
    (condition : ∀ s c, s.condition? = some c → motive s)
    (junction : ∀ (k : Junction) branches, (∀ b ∈ branches, ∀ s ∈ b, motive s) →
      motive (k.step branches))
    (not : ∀ branch, (∀ s ∈ branch, motive s) → motive (.not branch))
    (option : ∀ s o, s.option? = some o → motive s) : ∀ s, motive s
  | .ask .. => condition _ _ rfl
  | .clause _ => condition _ _ rfl
  | .or branches => junction .any branches fun b _ s _ => induct condition junction not option s
  | .and branches => junction .all branches fun b _ s _ => induct condition junction not option s
  | .not branch => not branch fun s _ => induct condition junction not option s
  | .project _ => option _ _ rfl
  | .projectSpec _ => option _ _ rfl
  | .strictProjection => option _ _ rfl
termination_by s => sizeOf s
decreasing_by
  · rename_i hb hs
    have h₁ := List.sizeOf_lt_of_mem hs
    have h₂ := List.sizeOf_lt_of_mem hb
    simp only [Step.or.sizeOf_spec]
    omega
  · rename_i hb hs
    have h₁ := List.sizeOf_lt_of_mem hs
    have h₂ := List.sizeOf_lt_of_mem hb
    simp only [Step.and.sizeOf_spec]
    omega
  · rename_i hs
    have h := List.sizeOf_lt_of_mem hs
    simp only [Step.not.sizeOf_spec]
    omega

variable {engine : Regex.Engine} {k : Junction} {s t : Step} {steps : List Step}
  {branches : List (List Step)} {spec : Value} {specs : List Value} {j : Judgement}

theorem branchSpecs_eq_map (branches : List (List Step)) :
    branchSpecs branches = branches.map specOf := by
  induction branches with
  | nil => rfl
  | cons b branches ih => rw [branchSpecs, ih]; rfl

theorem branchMeanings_eq_map (engine : Regex.Engine) (branches : List (List Step)) :
    branchMeanings engine branches = branches.map (meaning engine) := by
  induction branches with
  | nil => rfl
  | cons b branches ih => rw [branchMeanings, ih]; rfl

theorem mem_subSteps : t ∈ subSteps steps ↔ ∃ s ∈ steps, t ∈ s.subSteps := by
  induction steps with
  | nil => simp [subSteps]
  | cons s steps ih => simp [subSteps, ih]

theorem mem_branchSubSteps : t ∈ branchSubSteps branches ↔ ∃ b ∈ branches, t ∈ subSteps b := by
  induction branches with
  | nil => simp [branchSubSteps]
  | cons b branches ih => simp [branchSubSteps, ih]

theorem forall_mem_branchSubSteps {P : Step → Prop} :
    (∀ t ∈ branchSubSteps branches, P t) ↔ ∀ b ∈ branches, ∀ t ∈ subSteps b, P t := by
  simp only [mem_branchSubSteps]
  constructor
  · intro h b hb t ht
    exact h t ⟨b, hb, ht⟩
  · rintro h t ⟨b, hb, ht⟩
    exact h b hb t ht

theorem Junction.subSteps_step (k : Junction) (branches : List (List Step)) :
    (k.step branches).subSteps = k.step branches :: branchSubSteps branches := by
  cases k <;> rfl

theorem Junction.meaning_step (engine : Regex.Engine) (k : Junction)
    (branches : List (List Step)) :
    (k.step branches).meaning engine = k.judgement (branches.map (meaning engine)) := by
  rw [← branchMeanings_eq_map]
  cases k <;> rfl

theorem Junction.clause?_step (k : Junction) (branches : List (List Step)) :
    (k.step branches).clause? =
      some (.object [(k.operator.key, .array (branches.map specOf))]) := by
  rw [← branchSpecs_eq_map]
  cases k <;> rfl

theorem Step.self_mem_subSteps (s : Step) : s ∈ s.subSteps := by
  cases s <;> simp [Step.subSteps]

/-- The step asks something that can be read, or combines some branches. -/
structure Step.Sound (engine : Regex.Engine) (s : Step) : Prop where
  condition : ∀ c ∈ s.condition?, ∃ i, Judges engine (Condition.ofSpec c) i
  branches : ∀ k : Junction, s ≠ k.step []

/-- The step is sound, with all the steps in it, and this is what it says. -/
def Step.Means (engine : Regex.Engine) (s : Step) (j : Judgement) : Prop :=
  (∀ t ∈ s.subSteps, t.Sound engine) ∧ j = s.meaning engine

def Means (engine : Regex.Engine) (steps : List Step) (j : Judgement) : Prop :=
  (∀ t ∈ subSteps steps, t.Sound engine) ∧ j = meaning engine steps

/-- The clause of the step, if any, is a mapping that is read as what the step says. -/
inductive Step.Reads (engine : Regex.Engine) (s : Step) : Prop where
  | clause {c : Value} (hs : s.clause? = some c) (hc : c.isObject = true)
      (h : ∀ j, Judges engine (Condition.ofSpec c) j ↔ s.Means engine j)
  | silent (hs : s.clause? = none) (h : s.Means engine (.constant true))

theorem means_cons : Means engine (s :: steps) j ↔
    ∃ i, s.Means engine i ∧ ∃ m, Means engine steps m ∧ j = i.and m := by
  unfold Means Step.Means
  rw [subSteps, meaning, List.forall_mem_append]
  constructor
  · rintro ⟨⟨hs, hrest⟩, rfl⟩
    exact ⟨s.meaning engine, ⟨hs, rfl⟩, meaning engine steps, ⟨hrest, rfl⟩, rfl⟩
  · rintro ⟨i, ⟨hs, rfl⟩, m, ⟨hrest, rfl⟩, rfl⟩
    exact ⟨⟨hs, hrest⟩, rfl⟩

theorem constant_true_and (j : Judgement) : (Judgement.constant true).and j = j := rfl

theorem isObject_clauses (h : ∀ s ∈ steps, s.Reads engine) :
    ∀ c ∈ clauses steps, c.isObject = true := by
  induction steps with
  | nil => simp [clauses]
  | cons s steps ih =>
    rw [List.forall_mem_cons] at h
    rcases h.1 with @⟨c, hs, hc, -⟩ | ⟨hs, -⟩
    · rw [clauses, hs, List.forall_mem_cons]
      exact ⟨hc, ih h.2⟩
    · rw [clauses, hs]
      exact ih h.2

theorem judges_clauses (h : ∀ s ∈ steps, s.Reads engine) :
    (∃ js, List.Forall₂ (fun c i => Judges engine (Condition.ofSpec c) i) (clauses steps) js ∧
      j = .all js) ↔ Means engine steps j := by
  induction steps generalizing j with
  | nil => simp [clauses, Means, subSteps, meaning, Judgement.all]
  | cons s steps ih =>
    rw [List.forall_mem_cons] at h
    rw [means_cons]
    rcases h.1 with @⟨c, hs, -, hc⟩ | ⟨hs, hsilent⟩
    · rw [clauses, hs]
      constructor
      · rintro ⟨_, hjs, rfl⟩
        obtain ⟨i, js, hi, hrest, rfl⟩ := List.forall₂_cons_left_iff.1 hjs
        exact ⟨i, (hc i).1 hi, .all js, (ih h.2).1 ⟨js, hrest, rfl⟩, rfl⟩
      · rintro ⟨i, hi, m, hm, rfl⟩
        obtain ⟨js, hjs, rfl⟩ := (ih h.2).2 hm
        exact ⟨i :: js, .cons ((hc i).2 hi) hjs, rfl⟩
    · rw [clauses, hs, ih h.2]
      constructor
      · intro hj
        exact ⟨_, hsilent, j, hj, rfl⟩
      · rintro ⟨i, hi, m, hm, rfl⟩
        rwa [hi.2, ← hsilent.2, constant_true_and]

theorem isObject_combine (h : ∀ c ∈ specs, c.isObject = true) :
    (combine specs).isObject = true := by
  match specs with
  | [] => rfl
  | [c] => exact h c List.mem_cons_self
  | c :: c' :: rest => rfl

/-- Whatever the number of clauses, their specification is read as their conjunction. -/
theorem judges_combine (h : ∀ c ∈ specs, c.isObject = true) :
    Judges engine (Condition.ofSpec (combine specs)) j ↔
      ∃ js, List.Forall₂ (fun c i => Judges engine (Condition.ofSpec c) i) specs js ∧
        j = .all js := by
  match specs with
  | [] =>
    have hnil : Condition.ofSpec (combine []) =
        (([] : List Value).mapM Condition.ofSpec).map Junction.all.condition := by
      show document [] = _
      rw [document_eq, expand, expandInto, entries]
      rfl
    rw [hnil]
    exact judges_mapM .all
  | [c] =>
    constructor
    · intro hj
      exact ⟨[j], .cons hj .nil, (Judgement.all_singleton j).symm⟩
    · rintro ⟨_, hjs, rfl⟩
      obtain ⟨i, _, hi, hnil, rfl⟩ := List.forall₂_cons_left_iff.1 hjs
      cases hnil
      rwa [Judgement.all_singleton]
  | c :: c' :: rest =>
    exact (judges_junction .all h).trans (and_iff_right (List.cons_ne_nil c _))

theorem isObject_specOf (h : ∀ s ∈ steps, s.Reads engine) : (specOf steps).isObject = true :=
  isObject_combine (isObject_clauses h)

theorem judges_specOf (h : ∀ s ∈ steps, s.Reads engine) :
    Judges engine (Condition.ofSpec (specOf steps)) j ↔ Means engine steps j := by
  unfold specOf
  rw [judges_combine (isObject_clauses h), judges_clauses h]

theorem judges_iff_judgeOf : Judges engine (Condition.ofSpec spec) j ↔
    (∃ i, Judges engine (Condition.ofSpec spec) i) ∧ j = judgeOf engine spec := by
  have hjudge (i : Judgement) (hi : Judges engine (Condition.ofSpec spec) i) :
      i = judgeOf engine spec := by
    obtain ⟨f, hf, rfl⟩ := judges_ofSpec.2 hi
    unfold judgeOf
    rw [hf]
  constructor
  · intro hj
    exact ⟨⟨j, hj⟩, hjudge j hj⟩
  · rintro ⟨⟨i, hi⟩, rfl⟩
    exact hjudge i hi ▸ hi

theorem Junction.condition?_step (k : Junction) (branches : List (List Step)) :
    (k.step branches).condition? = none := by
  cases k <;> rfl

theorem sound_of_condition?_eq_none (hs : s.condition? = none)
    (hk : ∀ k : Junction, s ≠ k.step []) : s.Sound engine := by
  refine ⟨fun c hc => ?_, hk⟩
  rw [hs] at hc
  cases hc

theorem Junction.sound_step (k : Junction) (branches : List (List Step)) :
    (k.step branches).Sound engine ↔ branches ≠ [] := by
  constructor
  · rintro hs rfl
    exact hs.branches k rfl
  · intro hne
    refine sound_of_condition?_eq_none (k.condition?_step branches) ?_
    intro k' hk'
    apply hne
    cases k <;> cases k' <;> cases hk' <;> rfl

theorem reads_of_condition {c : Value} (hs : s.condition? = some c) (hc : c.isObject = true) :
    s.Reads engine := by
  have hstep : s.clause? = some c ∧ s.subSteps = [s] ∧ s.meaning engine = judgeOf engine c := by
    cases s with
    | ask | clause =>
      cases hs
      exact ⟨rfl, rfl, rfl⟩
    | or | and | not | project | projectSpec | strictProjection => cases hs
  obtain ⟨hclause, hsub, hmeaning⟩ := hstep
  have hsound : s.Sound engine ↔ ∃ i, Judges engine (Condition.ofSpec c) i := by
    constructor
    · intro h
      exact h.condition c hs
    · intro hi
      refine ⟨fun b hb => ?_, fun k hk => ?_⟩
      · cases hs.symm.trans hb
        exact hi
      · rw [hk, k.condition?_step] at hs
        cases hs
  refine .clause hclause hc fun j => ?_
  unfold Step.Means
  rw [hsub, List.forall_mem_singleton, hsound, hmeaning]
  exact judges_iff_judgeOf

theorem Junction.reads_step (k : Junction) (h : ∀ b ∈ branches, ∀ s ∈ b, s.Reads engine) :
    (k.step branches).Reads engine := by
  have hobj : ∀ spec ∈ branches.map specOf, spec.isObject = true := by
    intro spec hspec
    obtain ⟨b, hb, rfl⟩ := List.mem_map.1 hspec
    exact isObject_specOf (h b hb)
  have hbranches (js : List Judgement) :
      List.Forall₂ (fun spec i => Judges engine (Condition.ofSpec spec) i)
          (branches.map specOf) js ↔
        (∀ b ∈ branches, ∀ t ∈ subSteps b, t.Sound engine) ∧
          js = branches.map (meaning engine) := by
    rw [List.forall₂_map_left_iff]
    exact forall₂_iff_map fun b hb i => judges_specOf (h b hb)
  refine .clause (k.clause?_step branches) rfl fun j => ?_
  unfold Step.Means
  rw [k.subSteps_step, k.meaning_step, List.forall_mem_cons, k.sound_step,
    forall_mem_branchSubSteps]
  refine (judges_junction k hobj).trans ?_
  simp only [hbranches, ne_eq, List.map_eq_nil_iff]
  constructor
  · rintro ⟨hne, _, ⟨hs, rfl⟩, rfl⟩
    exact ⟨⟨hne, hs⟩, rfl⟩
  · rintro ⟨⟨hne, hs⟩, rfl⟩
    exact ⟨hne, _, ⟨hs, rfl⟩, rfl⟩

theorem reads_not (h : ∀ s ∈ steps, s.Reads engine) : (Step.not steps).Reads engine := by
  obtain ⟨d, hd⟩ := Value.isObject_iff.1 (isObject_specOf h)
  have hclause : (Step.not steps).clause? = some (.object [(Operator.not.key, .object d)]) := by
    rw [← hd]
    rfl
  have hsound : (Step.not steps).Sound engine := by
    refine sound_of_condition?_eq_none rfl ?_
    intro k hk
    cases k <;> cases hk
  have hread (i : Judgement) : Judges engine (document d) i ↔ Means engine steps i := by
    rw [← judges_specOf h, hd]
    rfl
  refine .clause hclause rfl fun j => ?_
  unfold Step.Means
  rw [Step.subSteps, List.forall_mem_cons, and_iff_right hsound]
  refine judges_not.trans ?_
  simp only [hread, Means]
  constructor
  · rintro ⟨_, ⟨hs, rfl⟩, rfl⟩
    exact ⟨hs, rfl⟩
  · rintro ⟨hs, rfl⟩
    exact ⟨_, ⟨hs, rfl⟩, rfl⟩

theorem reads_option {o : String × Value} (ho : s.option? = some o) : s.Reads engine := by
  have hstep : s.clause? = none ∧ s.condition? = none ∧ s.subSteps = [s] ∧
      s.meaning engine = .constant true ∧ ∀ k : Junction, s ≠ k.step [] := by
    cases s with
    | project | projectSpec | strictProjection =>
      refine ⟨rfl, rfl, rfl, rfl, ?_⟩
      intro k hk
      cases k <;> cases hk
    | ask | clause | or | and | not => cases ho
  obtain ⟨hclause, hcondition, hsub, hmeaning, hstep⟩ := hstep
  refine .silent hclause ⟨?_, hmeaning.symm⟩
  rw [hsub, List.forall_mem_singleton]
  exact sound_of_condition?_eq_none hcondition hstep

/-- Every step is read as what it says, if the conditions in it are mappings. -/
theorem Step.reads (hc : ∀ t ∈ s.subSteps, ∀ c ∈ t.condition?, c.isObject = true) :
    s.Reads engine := by
  induction s with
  | condition s c hs => exact reads_of_condition hs (hc s s.self_mem_subSteps c hs)
  | junction k branches ih =>
    refine k.reads_step fun b hb s hs => ih b hb s hs fun t ht => hc t ?_
    rw [k.subSteps_step]
    exact List.mem_cons_of_mem _ (mem_branchSubSteps.2 ⟨b, hb, mem_subSteps.2 ⟨s, hs, ht⟩⟩)
  | not branch ih =>
    refine reads_not fun s hs => ih s hs fun t ht => hc t ?_
    exact List.mem_cons_of_mem _ (mem_subSteps.2 ⟨s, hs, ht⟩)
  | option s o ho => exact reads_option ho

theorem sound_iff : (∀ t ∈ subSteps steps, t.Sound engine) ↔
    (∀ t ∈ subSteps steps, ∀ c ∈ t.condition?, ∃ f, ofSpec engine c = .ok f) ∧
      Step.or [] ∉ subSteps steps ∧ Step.and [] ∉ subSteps steps := by
  have hread (c : Value) :
      (∃ i, Judges engine (Condition.ofSpec c) i) ↔ ∃ f, ofSpec engine c = .ok f := by
    constructor
    · rintro ⟨i, hi⟩
      obtain ⟨f, hf, -⟩ := judges_ofSpec.2 hi
      exact ⟨f, hf⟩
    · rintro ⟨f, hf⟩
      exact ⟨f.judge, judges_ofSpec.1 ⟨f, hf, rfl⟩⟩
  constructor
  · intro h
    refine ⟨fun t ht c hc => (hread c).1 ((h t ht).condition c hc), ?_, ?_⟩
    · intro hor
      exact (h _ hor).branches .any rfl
    · intro hand
      exact (h _ hand).branches .all rfl
  · rintro ⟨hc, hor, hand⟩ t ht
    refine ⟨fun c hct => (hread c).2 (hc t ht c hct), ?_⟩
    rintro k rfl
    cases k with
    | all => exact hand ht
    | any => exact hor ht

theorem build_of_no_options (h : ∀ s ∈ steps, s.option? = none) :
    build engine steps = ofSpec engine (specOf steps) := by
  have hoptions : steps.filterMap Step.option? = [] := List.filterMap_eq_nil_iff.2 h
  unfold build optionsOf
  rw [hoptions]
  rfl

/-- Steps without options build a filter just when each condition that occurs in them is read by
itself and no combination lacks branches. The filter judges records as the steps do, from left to
right. -/
theorem build_meaning (ho : ∀ s ∈ steps, s.option? = none)
    (hc : ∀ t ∈ subSteps steps, ∀ c ∈ t.condition?, c.isObject = true) :
    ((∃ f, build engine steps = .ok f) ↔
      (∀ t ∈ subSteps steps, ∀ c ∈ t.condition?, ∃ f, ofSpec engine c = .ok f) ∧
        Step.or [] ∉ subSteps steps ∧ Step.and [] ∉ subSteps steps) ∧
    ∀ f, build engine steps = .ok f → ∀ r, f.judge r = meaning engine steps r := by
  have hreads : ∀ s ∈ steps, s.Reads engine := by
    intro s hs
    apply Step.reads
    intro t ht
    exact hc t (mem_subSteps.2 ⟨s, hs, ht⟩)
  have hbuild (j : Judgement) :
      (∃ f, build engine steps = .ok f ∧ f.judge = j) ↔ Means engine steps j := by
    rw [build_of_no_options ho, judges_ofSpec, judges_specOf hreads]
  constructor
  · rw [← sound_iff]
    constructor
    · rintro ⟨f, hf⟩
      exact ((hbuild f.judge).1 ⟨f, hf, rfl⟩).1
    · intro hs
      obtain ⟨f, hf, -⟩ := (hbuild (meaning engine steps)).2 ⟨hs, rfl⟩
      exact ⟨f, hf⟩
  · intro f hf r
    obtain ⟨-, hj⟩ := (hbuild f.judge).1 ⟨f, hf, rfl⟩
    rw [hj]

/-- A condition asked twice beside an alternative without conditions and a double negation. -/
theorem build_meaning_nested :
    let steps : List Step := [.ask "a.b" .gt (.bool false),
      .or [[.clause (.object [("c", .null)]), .ask "a.b" .lt (.bool true)], []],
      .not [.and [[.ask "d" .eq .null, .not []]]]]
    (∀ s ∈ steps, s.option? = none) ∧
      (∀ t ∈ subSteps steps, ∀ c ∈ t.condition?, c.isObject = true) ∧
      ∃ f, build Regex.dialect steps = .ok f ∧ ∀ r, f.judge r = meaning Regex.dialect steps r := by
  intro steps
  have ho : ∀ s ∈ steps, s.option? = none := by decide
  have hc : ∀ t ∈ subSteps steps, ∀ c ∈ t.condition?, c.isObject = true := by decide
  obtain ⟨f, hf⟩ : ∃ f, build Regex.dialect steps = .ok f := ⟨_, by cbv⟩
  exact ⟨ho, hc, f, hf, (build_meaning ho hc).2 f hf⟩

end NestedData.Filter
