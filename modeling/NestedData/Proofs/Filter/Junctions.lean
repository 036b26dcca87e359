import NestedData.Proofs.Filter.Negation
/-!
Operators over lists of specifications, and the negation of one. What stands below such an operator
is read part by part, and the parts are judged from left to right; a list is read just when it is
not empty and each of its parts is read.
-/

namespace NestedData

theorem forall₂_comp {α β γ : Type} {R : α → β → Prop} {S : β → γ → Prop} {xs : List α}
    {zs : List γ} : List.Forall₂ (fun x z => ∃ y, R x y ∧ S y z) xs zs ↔
      ∃ ys, List.Forall₂ R xs ys ∧ List.Forall₂ S ys zs := by
  induction xs generalizing zs with
  | nil =>
    rw [List.forall₂_nil_left_iff]
    constructor
    · rintro rfl
      exact ⟨[], .nil, .nil⟩
    · rintro ⟨ys, hxy, hyz⟩
      cases hxy
      cases hyz
      rfl
  | cons x xs ih =>
    rw [List.forall₂_cons_left_iff]
    constructor
    · rintro ⟨z, zs, ⟨y, hxy, hyz⟩, hrest, rfl⟩
      obtain ⟨ys, hxys, hyzs⟩ := ih.1 hrest
      exact ⟨y :: ys, .cons hxy hxys, .cons hyz hyzs⟩
    · rintro ⟨_, hxys, hyzs⟩
      cases hxys with
      | cons hxy hxys =>
        cases hyzs with
        | cons hyz hyzs => exact ⟨_, _, ⟨_, hxy, hyz⟩, ih.2 ⟨_, hxys, hyzs⟩, rfl⟩

theorem forall₂_iff_exists_map {α β γ : Type} {R : α → β → Prop} {S : α → γ → Prop} {g : β → γ}
    {xs : List α} {zs : List γ} (h : ∀ x ∈ xs, ∀ z, S x z ↔ ∃ y, R x y ∧ z = g y) :
    List.Forall₂ S xs zs ↔ ∃ ys, List.Forall₂ R xs ys ∧ zs = ys.map g := by
  induction xs generalizing zs with
  | nil => simp
  | cons x xs ih =>
    rw [List.forall_mem_cons] at h
    rw [List.forall₂_cons_left_iff]
    constructor
    · rintro ⟨z, rest, hz, hrest, rfl⟩
      obtain ⟨y, hy, rfl⟩ := (h.1 z).1 hz
      obtain ⟨ys, hys, rfl⟩ := (ih h.2).1 hrest
      exact ⟨y :: ys, .cons hy hys, rfl⟩
    · rintro ⟨_, hys, rfl⟩
      obtain ⟨y, ys, hy, hrest, rfl⟩ := List.forall₂_cons_left_iff.1 hys
      exact ⟨g y, ys.map g, (h.1 _).2 ⟨y, hy, rfl⟩, (ih h.2).2 ⟨ys, hrest, rfl⟩, rfl⟩

theorem forall₂_iff_map {α β : Type} {R : α → β → Prop} {P : α → Prop} {g : α → β} {xs : List α}
    {ys : List β} (h : ∀ x ∈ xs, ∀ y, R x y ↔ P x ∧ y = g x) :
    List.Forall₂ R xs ys ↔ (∀ x ∈ xs, P x) ∧ ys = xs.map g := by
  have hg : ∀ x ∈ xs, ∀ y, R x y ↔ ∃ x', (P x ∧ x = x') ∧ y = g x' := by
    intro x hx y
    rw [h x hx y]
    simp
  rw [forall₂_iff_exists_map hg]
  simp only [List.forall₂_and_left, List.forall₂_eq_eq_eq]
  simp

namespace Filter

/-- The operators over lists of specifications. -/
inductive Junction where
  | all
  | any

namespace Junction

def operator : Junction → Operator
  | .all => .and
  | .any => .or

def condition : Junction → List Condition → Condition
  | .all => .all
  | .any => .any

def judgement : Junction → List Judgement → Judgement
  | .all => .all
  | .any => .any

theorem compile_condition {engine : Regex.Engine} (k : Junction) {cs : List Condition}
    {j : Judgement} : (k.condition cs).compile engine = .ok j ↔
      ∃ js, Condition.Compiled engine cs js ∧ j = k.judgement js := by
  cases k with
  | all => exact Condition.compile_all
  | any => exact Condition.compile_any

end Junction

/-- A condition is read, and judges so. -/
def Judges (engine : Regex.Engine) (read : SpecResult Condition) (j : Judgement) : Prop :=
  ∃ c, read = .ok c ∧ c.compile engine = .ok j

variable {engine : Regex.Engine} {α : Type} {read : SpecResult Condition} {k : Junction}
  {key : String} {v : Value} {d : Document} {i j : Judgement} {specs : List Value}

theorem judges_map_not :
    Judges engine (read.map .not) j ↔ ∃ i, Judges engine read i ∧ j = i.not := by
  simp only [Judges, map_eq_ok_iff]
  constructor
  · rintro ⟨_, ⟨c, hc, rfl⟩, hj⟩
    obtain ⟨i, hi, rfl⟩ := Condition.compile_not.1 hj
    exact ⟨i, ⟨c, hc, hi⟩, rfl⟩
  · rintro ⟨i, ⟨c, hc, hi⟩, rfl⟩
    exact ⟨_, ⟨c, hc, rfl⟩, Condition.compile_not.2 ⟨i, hi, rfl⟩⟩

theorem judges_map_group :
    Judges engine (read.map (.group key)) j ↔ ∃ i, Judges engine read i ∧ j = .onField key i := by
  simp only [Judges, map_eq_ok_iff]
  constructor
  · rintro ⟨_, ⟨c, hc, rfl⟩, hj⟩
    obtain ⟨i, hi, rfl⟩ := Condition.compile_group.1 hj
    exact ⟨i, ⟨c, hc, hi⟩, rfl⟩
  · rintro ⟨i, ⟨c, hc, hi⟩, rfl⟩
    exact ⟨_, ⟨c, hc, rfl⟩, Condition.compile_group.2 ⟨i, hi, rfl⟩⟩

theorem judges_mapM (k : Junction) {f : α → SpecResult Condition} {xs : List α} :
    Judges engine ((xs.mapM f).map k.condition) j ↔
      ∃ js, List.Forall₂ (fun x i => Judges engine (f x) i) xs js ∧ j = k.judgement js := by
  simp only [Judges, map_eq_ok_iff, mapM_eq_ok_iff, forall₂_comp]
  constructor
  · rintro ⟨_, ⟨cs, hcs, rfl⟩, hj⟩
    obtain ⟨js, hjs, rfl⟩ := k.compile_condition.1 hj
    exact ⟨js, ⟨cs, hcs, hjs⟩, rfl⟩
  · rintro ⟨js, ⟨cs, hcs, hjs⟩, rfl⟩
    exact ⟨_, ⟨cs, hcs, rfl⟩, k.compile_condition.2 ⟨js, hjs, rfl⟩⟩

theorem judges_ofSpec {spec : Value} :
    (∃ f, ofSpec engine spec = .ok f ∧ f.judge = j) ↔ Judges engine (Condition.ofSpec spec) j := by
  unfold ofSpec withOptions ofCondition Judges
  simp only [bind_eq_ok_iff, map_eq_ok_iff]
  constructor
  · rintro ⟨_, ⟨c, hc, j, hj, rfl⟩, rfl⟩
    exact ⟨c, hc, hj⟩
  · rintro ⟨c, hc, hj⟩
    exact ⟨_, ⟨c, hc, j, hj, rfl⟩, rfl⟩

theorem judges_single (h : expand d = [(key, v)]) :
    Judges engine (document d) j ↔ Judges engine (entry key v) j := by
  rw [document_eq, h, entries_eq_mapM]
  refine (judges_mapM .all).trans ?_
  constructor
  · rintro ⟨_, hjs, rfl⟩
    obtain ⟨i, _, hi, hnil, rfl⟩ := List.forall₂_cons_left_iff.1 hjs
    cases hnil
    rwa [Junction.judgement, Judgement.all_singleton]
  · intro hj
    exact ⟨[j], .cons hj .nil, (Judgement.all_singleton j).symm⟩

theorem documents_eq_mapM (op : Operator) (h : ∀ s ∈ specs, s.isObject = true) :
    documents op specs = specs.mapM Condition.ofSpec := by
  induction specs with
  | nil => rw [documents]; rfl
  | cons s specs ih =>
    rw [List.forall_mem_cons] at h
    cases s with
    | object d => rw [documents, List.mapM_cons, ih h.2]; rfl
    | null | bool | number | string | array => cases h.1

theorem documents_objects (op : Operator) (ds : List Document) :
    documents op (ds.map .object) = ds.mapM document := by
  have hobjects : ∀ s ∈ ds.map Value.object, s.isObject = true := by
    intro s hs
    obtain ⟨d, -, rfl⟩ := List.mem_map.1 hs
    rfl
  rw [documents_eq_mapM op hobjects, List.mapM_map]
  rfl

theorem expand_array (hk : Single key) (items : List Value) :
    expand [(key, .array items)] = [(key, .array items)] := by
  rw [expand, expandInto, expandInto, place_of_single hk]
  rfl

theorem entry_junction (k : Junction) (specs : List Value) :
    entry k.operator.key (.array specs) =
      if specs = [] then .error (needsItems k.operator)
      else (documents k.operator specs).map k.condition := by
  rw [entry.eq_def, if_pos k.operator.isOperatorKey_key, k.operator.ofKey?_key]
  cases specs <;> cases k <;> rfl

theorem judges_junction (k : Junction) (h : ∀ s ∈ specs, s.isObject = true) :
    Judges engine (document [(k.operator.key, .array specs)]) j ↔ specs ≠ [] ∧
      ∃ js, List.Forall₂ (fun s i => Judges engine (Condition.ofSpec s) i) specs js ∧
        j = k.judgement js := by
  have hkey : Single k.operator.key := by cases k <;> decide
  rw [judges_single (expand_array hkey specs), entry_junction]
  by_cases hnil : specs = []
  · rw [if_pos hnil]
    refine iff_of_false ?_ fun hne => hne.1 hnil
    rintro ⟨c, hc, -⟩
    cases hc
  · rw [if_neg hnil, documents_eq_mapM _ h, judges_mapM k, and_iff_right hnil]

theorem judges_not :
    Judges engine (document [(Operator.not.key, .object d)]) j ↔
      ∃ i, Judges engine (document d) i ∧ j = i.not := by
  obtain ⟨e, he, hed⟩ := expand_not d
  rw [judges_single he, entry_not, hed, judges_map_not]

end Filter
end NestedData
