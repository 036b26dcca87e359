import NestedData.Proofs.Filter.Conjunction
import NestedData.Proofs.Filter.Junctions
import NestedData.Regex.Dialect
/-!
Operators asked of a field, and the same operators over documents that ask the field. A dotted field
puts the operator inside a chain of groups in the one form and outside of it in the other; judging
below a chain of fields commutes with conjunction, disjunction and negation, so the forms agree.
-/

namespace NestedData

namespace Judgement

variable {i j : Judgement} {js : List Judgement}

theorem onField_not (field : String) (j : Judgement) :
    onField field j.not = (onField field j).not := by
  funext r
  show (r.field? field).bind j.not = ((r.field? field).bind j).map (!·)
  cases r.field? field <;> rfl

theorem onField_and (field : String) (i j : Judgement) :
    onField field (i.and j) = (onField field i).and (onField field j) := by
  funext r
  simp only [onField, and]
  cases r.field? field <;> rfl

def below (path : List String) (j : Judgement) : Judgement := path.foldr onField j

theorem below_not (path : List String) (j : Judgement) : below path j.not = (below path j).not := by
  induction path with
  | nil => rfl
  | cons field path ih => exact (congrArg (onField field) ih).trans (onField_not field _)

theorem below_and (path : List String) (i j : Judgement) :
    below path (i.and j) = (below path i).and (below path j) := by
  induction path with
  | nil => rfl
  | cons field path ih => exact (congrArg (onField field) ih).trans (onField_and field _ _)

/-- Nothing is asked of the fields on the way by an empty conjunction, so there must be a part. -/
theorem below_all (path : List String) (h : js ≠ []) :
    below path (all js) = all (js.map (below path)) := by
  induction js with
  | nil => exact absurd rfl h
  | cons j js ih =>
    rw [List.map_cons]
    by_cases hjs : js = []
    · subst hjs
      rw [List.map_nil, all_singleton, all_singleton]
    · rw [all, all, below_and, ih hjs]

theorem not_not (j : Judgement) : j.not.not = j := by
  funext r
  unfold not
  cases j r <;> simp

theorem any_eq_not_all (js : List Judgement) : any js = (all (js.map not)).not := by
  induction js with
  | nil => rfl
  | cons j js ih => rw [any, or_eq_not_and_not, ih, not_not, List.map_cons, all]

theorem below_any (path : List String) (h : js ≠ []) :
    below path (any js) = any (js.map (below path)) := by
  have hne : js.map not ≠ [] := by rwa [ne_eq, List.map_eq_nil_iff]
  rw [any_eq_not_all, any_eq_not_all, below_not, below_all path hne, List.map_map, List.map_map]
  simp only [Function.comp_def, below_not]

end Judgement

namespace Filter

open Judgement (below)

variable {engine : Regex.Engine} {k : Junction} {name field : String} {parents : List String}
  {m : Document} {ms : List Document} {i j : Judgement} {js : List Judgement}
  {s t low high v : Value}

theorem Junction.below_judgement (k : Junction) (path : List String) (h : js ≠ []) :
    below path (k.judgement js) = k.judgement (js.map (below path)) := by
  cases k with
  | all => exact Judgement.below_all path h
  | any => exact Judgement.below_any path h

theorem hasOperator_operator (op : Operator) (v : Value) : hasOperator [(op.key, v)] = true := by
  rw [hasOperator, List.any_cons, op.isOperatorKey_key, Bool.true_or]

theorem fieldSpec_operator (name : String) (op : Operator) (v : Value) :
    fieldSpec name [(op.key, v)] = operator name op v := by
  rw [fieldSpec.eq_def, hasOperator_operator]
  simp only [Operator.ofKey?_key]
  rfl

theorem fieldSpecs_eq_mapM (name : String) (op : Operator) (ms : List Document) :
    fieldSpecs name op (ms.map .object) = ms.mapM (fieldSpec name) := by
  induction ms with
  | nil => rw [List.map_nil, fieldSpecs]; rfl
  | cons m ms ih => rw [List.map_cons, fieldSpecs, List.mapM_cons, ih]

theorem operator_junction (k : Junction) (name : String) (items : List Value) :
    operator name k.operator (.array items) =
      if items = [] then .error (needsItems k.operator)
      else (fieldSpecs name k.operator items).map k.condition := by
  cases items <;> cases k <;> rw [operator.eq_def] <;> rfl

theorem judges_field_junction (k : Junction) (name : String) (ms : List Document) :
    Judges engine (fieldSpec name [(k.operator.key, .array (ms.map .object))]) j ↔ ms ≠ [] ∧
      ∃ js, List.Forall₂ (fun m i => Judges engine (fieldSpec name m) i) ms js ∧
        j = k.judgement js := by
  rw [fieldSpec_operator, operator_junction]
  by_cases hnil : ms = []
  · subst hnil
    refine iff_of_false ?_ fun h => h.1 rfl
    rintro ⟨c, hc, -⟩
    cases hc
  · have hitems : ms.map Value.object ≠ [] := by rwa [ne_eq, List.map_eq_nil_iff]
    rw [if_neg hitems, fieldSpecs_eq_mapM, judges_mapM, and_iff_right hnil]

theorem judges_field_not (name : String) (m : Document) :
    Judges engine (fieldSpec name [(Operator.not.key, .object m)]) j ↔
      ∃ i, Judges engine (fieldSpec name m) i ∧ j = i.not := by
  rw [fieldSpec_operator, operator.eq_def, judges_map_not]

theorem judges_group {d : Document} (hs : Single field) (hk : isOperatorKey field = false)
    (hd : ExpandedDocument d) (ho : hasOperator d = false) (hne : d ≠ []) :
    Judges engine (document [(field, .object d)]) j ↔
      ∃ i, Judges engine (document d) i ∧ j = .onField field i := by
  have hexpand : expand [(field, .object d)] = [(field, .object d)] :=
    (expandedDocument_nil.insert hs hd.expanded).expand_eq
  rw [judges_single hexpand, entry_object hk ho hne, judges_map_group]

theorem judges_placed (hp : ∀ p ∈ parents ++ [name], isOperatorKey p = false)
    (hs : ∀ p ∈ parents ++ [name], Single p) (hv : Expanded v) :
    Judges engine (document (placeAt (parents ++ [name]) v [])) j ↔
      ∃ i, Judges engine (entry name v) i ∧ j = below parents i := by
  induction parents generalizing j with
  | nil =>
    have hexpand : expand [(name, v)] = [(name, v)] :=
      (expandedDocument_nil.placeAt hs hv).expand_eq
    refine (judges_single hexpand).trans ?_
    simp [below]
  | cons p parents ih =>
    rw [List.cons_append, List.forall_mem_cons] at hp hs
    obtain ⟨l, rest, hrest⟩ : ∃ l rest, parents ++ [name] = l :: rest :=
      List.exists_cons_of_ne_nil (by simp)
    have hinner : ExpandedDocument (placeAt (parents ++ [name]) v []) :=
      expandedDocument_nil.placeAt hs.2 hv
    have hplain : hasOperator (placeAt (parents ++ [name]) v []) = false := by
      rw [hrest, hasOperator_placeAt, hp.2 l (hrest ▸ List.mem_cons_self)]
      rfl
    have hne : placeAt (parents ++ [name]) v [] ≠ [] := by
      rw [hrest]
      exact placeAt_ne_nil l rest _ _
    have hplace : placeAt (p :: (parents ++ [name])) v [] =
        [(p, .object (placeAt (parents ++ [name]) v []))] := by
      rw [hrest]
      rfl
    rw [List.cons_append, hplace, judges_group hs.1 hp.1 hinner hplain hne]
    constructor
    · rintro ⟨_, hbelow, rfl⟩
      obtain ⟨i, hi, rfl⟩ := (ih hp.2 hs.2).1 hbelow
      exact ⟨i, hi, rfl⟩
    · rintro ⟨i, hi, rfl⟩
      exact ⟨below parents i, (ih hp.2 hs.2).2 ⟨i, hi, rfl⟩, rfl⟩

/-- A plain key leads through parents to a field, of which its value is asked. -/
theorem Plain.judges (hf : Plain field) (hpath : keyPath field = parents ++ [name]) (v : Value) :
    Judges engine (document [(field, v)]) j ↔
      ∃ i, Judges engine (entry name (expandValue v)) i ∧ j = below parents i := by
  have hplain : ∀ p ∈ parents ++ [name], isOperatorKey p = false := by
    intro p hp
    exact hf.not_operator (hpath ▸ hp)
  have hsingle : ∀ p ∈ parents ++ [name], Single p := by
    intro p hp
    exact single_of_mem_keyPath (hpath ▸ hp)
  have hexpand : expand [(field, v)] = placeAt (parents ++ [name]) (expandValue v) [] := by
    rw [expand, expandInto, expandInto, place_eq_placeAt, hpath]
  rw [← document_expand, hexpand]
  exact judges_placed hplain hsingle (expanded_expandValue v)

theorem Plain.judges_operators (engine : Regex.Engine) (hf : Plain field) :
    ∃ parents name, ∀ m, hasOperator m = true → ∀ j,
      Judges engine (document [(field, .object m)]) j ↔
      ∃ i, Judges engine (fieldSpec name m) i ∧ j = below parents i := by
  obtain ⟨parents, name, hpath⟩ : ∃ parents name, keyPath field = parents ++ [name] :=
    ⟨_, _, (List.dropLast_append_getLast (keyPath_ne_nil field)).symm⟩
  refine ⟨parents, name, fun m hm j => ?_⟩
  have hname : isOperatorKey name = false := by
    apply hf.not_operator
    rw [hpath]
    exact List.mem_append_right parents List.mem_cons_self
  have hentry : entry name (expandValue (.object m)) = fieldSpec name m := by
    rw [expandValue, if_pos hm, entry_field hname]
  rw [hf.judges hpath, hentry]

/-- A conjunction or disjunction asked of a field is that of the mappings asked one by one. -/
theorem judges_field_iff_documents (k : Junction) (hf : Plain field)
    (h : ∀ m ∈ ms, hasOperator m = true) :
    Judges engine (document [(field, .object [(k.operator.key, .array (ms.map .object))])]) j ↔
      Judges engine (document [(k.operator.key,
        .array (ms.map fun m => .object [(field, .object m)]))]) j := by
  obtain ⟨parents, name, hread⟩ := hf.judges_operators engine
  have hobj : ∀ s ∈ ms.map fun m => Value.object [(field, .object m)], s.isObject = true := by
    intro s hs
    obtain ⟨m, -, rfl⟩ := List.mem_map.1 hs
    rfl
  have hlist (js : List Judgement) :
      List.Forall₂ (fun s j => Judges engine (Condition.ofSpec s) j)
          (ms.map fun m => .object [(field, .object m)]) js ↔
        ∃ is, List.Forall₂ (fun m i => Judges engine (fieldSpec name m) i) ms is ∧
          js = is.map (below parents) := by
    rw [List.forall₂_map_left_iff]
    exact forall₂_iff_exists_map fun m hm => hread m (h m hm)
  rw [hread _ (hasOperator_operator _ _), judges_junction k hobj, ne_eq, List.map_eq_nil_iff]
  simp only [hlist]
  constructor
  · rintro ⟨_, hi, rfl⟩
    obtain ⟨hne, is, his, rfl⟩ := (judges_field_junction k name ms).1 hi
    refine ⟨hne, is.map (below parents), ⟨is, his, rfl⟩, k.below_judgement parents ?_⟩
    rintro rfl
    exact hne (List.forall₂_nil_right_iff.1 his)
  · rintro ⟨hne, _, ⟨is, his, rfl⟩, rfl⟩
    refine ⟨k.judgement is, (judges_field_junction k name ms).2 ⟨hne, is, his, rfl⟩,
      (k.below_judgement parents ?_).symm⟩
    rintro rfl
    exact hne (List.forall₂_nil_right_iff.1 his)

theorem judges_field_not_iff_document (hf : Plain field) (hm : hasOperator m = true) :
    Judges engine (document [(field, .object [(Operator.not.key, .object m)])]) j ↔
      Judges engine (document [(Operator.not.key, .object [(field, .object m)])]) j := by
  obtain ⟨parents, name, hread⟩ := hf.judges_operators engine
  rw [hread _ (hasOperator_operator _ _), judges_not]
  constructor
  · rintro ⟨_, hnot, rfl⟩
    obtain ⟨i, hi, rfl⟩ := (judges_field_not name m).1 hnot
    exact ⟨below parents i, (hread m hm _).2 ⟨i, hi, rfl⟩, Judgement.below_not parents i⟩
  · rintro ⟨_, hj, rfl⟩
    obtain ⟨i, hi, rfl⟩ := (hread m hm _).1 hj
    exact ⟨i.not, (judges_field_not name m).2 ⟨i, hi, rfl⟩, (Judgement.below_not parents i).symm⟩

/-- What a range asks of its field, a mapping for each bound that is not open. -/
def boundMappings (low high : Value) : List Document :=
  (bound? low).toList.map (fun b => [(Operator.gte.key, b)]) ++
    (bound? high).toList.map fun b => [(Operator.lte.key, b)]

theorem hasOperator_of_mem_boundMappings (h : m ∈ boundMappings low high) :
    hasOperator m = true := by
  rcases List.mem_append.1 h with h | h
  · obtain ⟨b, -, rfl⟩ := List.mem_map.1 h
    exact hasOperator_operator .gte b
  · obtain ⟨b, -, rfl⟩ := List.mem_map.1 h
    exact hasOperator_operator .lte b

theorem bound?_eq_none_iff : bound? v = none ↔ v = .null := by
  cases v <;> simp [bound?]

theorem boundMappings_ne_nil (h : low ≠ .null ∨ high ≠ .null) : boundMappings low high ≠ [] := by
  intro hnil
  obtain ⟨hlow, hhigh⟩ := List.append_eq_nil_iff.1 hnil
  rw [List.map_eq_nil_iff, Option.toList_eq_nil_iff, bound?_eq_none_iff] at hlow hhigh
  exact h.elim (· hlow) (· hhigh)

theorem judges_ok {c : Condition} (h : c.compile engine = .ok i) :
    Judges engine (.ok c) j ↔ j = i := by
  constructor
  · rintro ⟨_, ⟨⟩, hj⟩
    exact Except.ok.inj (hj.symm.trans h)
  · rintro rfl
    exact ⟨c, rfl, h⟩

theorem judges_field_gte :
    Judges engine (fieldSpec name [(Operator.gte.key, v)]) j ↔ j = .compare name .gte v := by
  rw [fieldSpec_operator, operator.eq_def]
  exact judges_ok rfl

theorem judges_field_lte :
    Judges engine (fieldSpec name [(Operator.lte.key, v)]) j ↔ j = .compare name .lte v := by
  rw [fieldSpec_operator, operator.eq_def]
  exact judges_ok rfl

theorem judges_field_between :
    Judges engine (fieldSpec name [(Operator.between.key, .array [low, high])]) j ↔
      j = .between name (bound? low) (bound? high) := by
  rw [fieldSpec_operator, operator.eq_def]
  exact judges_ok rfl

theorem judges_boundMappings :
    (∃ js, List.Forall₂ (fun m i => Judges engine (fieldSpec name m) i)
      (boundMappings low high) js ∧ j = .all js) ↔
      j = .between name (bound? low) (bound? high) := by
  unfold boundMappings
  cases bound? low with
  | none =>
    cases bound? high with
    | none => simp [Judgement.all, Judgement.between]
    | some b =>
      simp [List.forall₂_cons_left_iff, judges_field_lte, Judgement.all_singleton,
        Judgement.between]
  | some a =>
    cases bound? high with
    | none =>
      simp [List.forall₂_cons_left_iff, judges_field_gte, Judgement.all_singleton,
        Judgement.between]
    | some b =>
      simp [List.forall₂_cons_left_iff, judges_field_gte, judges_field_lte, Judgement.all,
        Judgement.and_constant_true, Judgement.between]

/-- A range that is not open at both ends is the conjunction of its bounds. -/
theorem judges_field_range (h : low ≠ .null ∨ high ≠ .null) :
    Judges engine (fieldSpec name [(Operator.between.key, .array [low, high])]) j ↔
      Judges engine (fieldSpec name
        [(Operator.and.key, .array ((boundMappings low high).map .object))]) j := by
  rw [judges_field_between, ← judges_boundMappings]
  refine Iff.trans ?_ (judges_field_junction .all name _).symm
  exact (and_iff_right (boundMappings_ne_nil h)).symm

/-- Both specifications are rejected, or both are read and their filters judge alike. -/
def Agree (engine : Regex.Engine) (s t : Value) : Prop :=
  ((∃ f, ofSpec engine s = .ok f) ↔ ∃ g, ofSpec engine t = .ok g) ∧
  ∀ f g, ofSpec engine s = .ok f → ofSpec engine t = .ok g → ∀ r, f.judge r = g.judge r

theorem agree_of_judges
    (h : ∀ j, Judges engine (Condition.ofSpec s) j ↔ Judges engine (Condition.ofSpec t) j) :
    Agree engine s t := by
  simp only [← judges_ofSpec] at h
  refine ⟨⟨?_, ?_⟩, ?_⟩
  · rintro ⟨f, hf⟩
    obtain ⟨g, hg, -⟩ := (h f.judge).1 ⟨f, hf, rfl⟩
    exact ⟨g, hg⟩
  · rintro ⟨g, hg⟩
    obtain ⟨f, hf, -⟩ := (h g.judge).2 ⟨g, hg, rfl⟩
    exact ⟨f, hf⟩
  · intro f g hf hg r
    obtain ⟨g', hg', hj⟩ := (h f.judge).1 ⟨f, hf, rfl⟩
    cases hg.symm.trans hg'
    rw [hj]

/-- The operators `$and`, `$or`, `$not` and `$between`, asked of a field without segments that start
like an operator, agree with the same operators over documents that ask the field. Mappings hold an
operator; a bound that is null asks nothing. -/
theorem field_operators_agree (engine : Regex.Engine) {field : String} (hf : Plain field) :
    (∀ key ∈ ["$and", "$or"], ∀ ms : List Document, (∀ m ∈ ms, hasOperator m = true) →
      Agree engine (.object [(field, .object [(key, .array (ms.map .object))])])
        (.object [(key, .array (ms.map fun m => .object [(field, .object m)]))])) ∧
    (∀ m, hasOperator m = true →
      Agree engine (.object [(field, .object [("$not", .object m)])])
        (.object [("$not", .object [(field, .object m)])])) ∧
    ∀ low high : Value, low ≠ .null ∨ high ≠ .null →
      Agree engine (.object [(field, .object [("$between", .array [low, high])])])
        (.object [("$and", .array
          ((boundMappings low high).map fun m => .object [(field, .object m)]))]) := by
  refine ⟨?_, ?_, ?_⟩
  · intro key hkey ms h
    obtain ⟨k, rfl⟩ : ∃ k : Junction, key = k.operator.key := by
      rcases List.mem_pair.1 hkey with rfl | rfl
      · exact ⟨.all, rfl⟩
      · exact ⟨.any, rfl⟩
    exact agree_of_judges fun j => judges_field_iff_documents k hf h
  · intro m hm
    exact agree_of_judges fun j => judges_field_not_iff_document hf hm
  · intro low high h
    apply agree_of_judges
    intro j
    obtain ⟨parents, name, hread⟩ := hf.judges_operators engine
    have hand : Judges engine (document [(field, .object [(Operator.and.key,
        .array ((boundMappings low high).map .object))])]) j ↔ _ :=
      judges_field_iff_documents .all hf fun m => hasOperator_of_mem_boundMappings
    refine Iff.trans ?_ hand
    rw [hread _ (hasOperator_operator .and _)]
    refine (hread _ (hasOperator_operator .between _) j).trans ?_
    exact exists_congr fun i => and_congr_left' (judges_field_range h)

/-- A field below another, asked for an alternative that holds a negation, and for a range that is
open below. -/
theorem field_operators_agree_dotted :
    let less : Document := [("$lt", .bool true)]
    let other : Document := [("$not", .object [("$eq", .string "x")])]
    let either : Value := .object [("a.b", .object [("$or", .array [.object less, .object other])])]
    Plain "a.b" ∧ (∃ f, ofSpec Regex.dialect either = .ok f) ∧
      Agree Regex.dialect either (.object [("$or", .array [.object [("a.b", .object less)],
        .object [("a.b", .object other)]])]) ∧
      Agree Regex.dialect (.object [("a.b", .object [("$not", .object less)])])
        (.object [("$not", .object [("a.b", .object less)])]) ∧
      Agree Regex.dialect (.object [("a.b", .object [("$between", .array [.null, .string "x"])])])
        (.object [("$and", .array [.object [("a.b", .object [("$lte", .string "x")])]])]) := by
  intro less other either
  have hf : Plain "a.b" := by decide
  have hx : Value.string "x" ≠ .null := nofun
  obtain ⟨f, hread⟩ : ∃ f, ofSpec Regex.dialect either = .ok f := ⟨_, by cbv⟩
  obtain ⟨hor, hnot, hrange⟩ := field_operators_agree Regex.dialect hf
  refine ⟨hf, ⟨f, hread⟩, ?_, hnot less (by decide), hrange .null (.string "x") (Or.inr hx)⟩
  exact hor "$or" (by decide) [less, other] (by decide)

end Filter
end NestedData
