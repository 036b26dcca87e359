import NestedData.Proofs.Filter.Reading
import NestedData.Regex.Dialect
import Mathlib.Data.List.FinRange
import Mathlib.Data.List.Sort
/-!
Negated filters. The filter of a negated specification selects what the filter of the specification
rejects. Every record of a list is selected, or rejected, or cannot be judged.
-/

namespace NestedData

namespace Judgement

theorem and_constant_true (j : Judgement) : j.and (constant true) = j := by
  funext r
  unfold and constant
  cases j r with
  | none => rfl
  | some v => cases v <;> rfl

theorem all_singleton (j : Judgement) : all [j] = j := and_constant_true j

end Judgement

namespace Filter

variable {engine : Regex.Engine} {d : Document} {f g : Filter} {o : FilterOptions}

theorem document_expandValue (d : Document) :
    ∃ e, expandValue (.object d) = .object e ∧ document e = document d := by
  rw [expandValue]
  split
  · exact ⟨d, rfl, rfl⟩
  · exact ⟨expand d, rfl, document_expand d⟩

theorem expand_not (d : Document) :
    ∃ e, expand [(Operator.not.key, .object d)] = [(Operator.not.key, .object e)] ∧
      document e = document d := by
  obtain ⟨e, he, hed⟩ := document_expandValue d
  have hk : Single Operator.not.key := by decide
  refine ⟨e, ?_, hed⟩
  rw [expand, expandInto, expandInto, he, place_of_single hk]
  rfl

theorem document_not (d : Document) :
    document [(Operator.not.key, .object d)] = (document d).map fun c => .all [.not c] := by
  obtain ⟨e, he, hed⟩ := expand_not d
  rw [document_eq, he, entries_eq_mapM, List.mapM_cons, entry_not, hed]
  cases document d <;> rfl

theorem withOptions_not (h : withOptions engine (.object d) o = .ok f) :
    ∃ g, withOptions engine (.object [(Operator.not.key, .object d)]) o = .ok g ∧
      g.judge = f.judge.not ∧ g.options = f.options := by
  obtain ⟨c, j, hc, hj, rfl⟩ := withOptions_eq_ok_iff.1 h
  have hnot : (Condition.all [.not c]).compile engine = .ok j.not := by
    refine Condition.compile_all.2 ⟨[j.not], ?_, (Judgement.all_singleton j.not).symm⟩
    exact .cons (Condition.compile_not.2 ⟨j, hj, rfl⟩) .nil
  refine ⟨⟨.all [.not c], j.not, o⟩, withOptions_eq_ok_iff.2 ⟨_, _, ?_, hnot, rfl⟩, rfl, rfl⟩
  rw [document_not, hc]
  rfl

theorem selects_of_judge_eq_not (h : g.judge = f.judge.not) : g.selects = f.rejects := by
  funext r
  unfold selects rejects
  rw [h]
  unfold Judgement.not
  cases f.judge r with
  | none => rfl
  | some v => cases v <;> rfl

/-- The places in a list at which the records with one verdict stand. -/
def placesOf (f : Filter) (verdict : Option Bool) (records : List Value) :
    List (Fin records.length) :=
  (List.finRange records.length).filter fun i => f.judge (records.get i) = verdict

theorem mem_placesOf {verdict : Option Bool} {records : List Value} {i : Fin records.length} :
    i ∈ f.placesOf verdict records ↔ f.judge (records.get i) = verdict := by
  unfold placesOf
  rw [List.mem_filter, decide_eq_true_eq]
  exact and_iff_right (List.mem_finRange i)

theorem pairwise_placesOf (verdict : Option Bool) (records : List Value) :
    (f.placesOf verdict records).Pairwise (· < ·) :=
  ((List.sortedLT_finRange records.length).pairwise).sublist List.filter_sublist

theorem map_get_placesOf (verdict : Option Bool) (records : List Value) :
    (f.placesOf verdict records).map records.get =
      records.filter fun r => f.judge r = verdict := by
  have hget : records.filter (fun r => f.judge r = verdict) =
      ((List.finRange records.length).map records.get).filter fun r => f.judge r = verdict := by
    rw [List.map_get_finRange]
  rw [hget, List.filter_map]
  rfl

theorem select_eq_filter (h : f.options.projection = none) (records : List Value) :
    f.select records = .ok (records.filter f.selects) := by
  unfold select output
  rw [h]

theorem reject_eq_filter (h : f.options.projection = none) (records : List Value) :
    f.reject records = .ok (records.filter f.rejects) := by
  unfold reject output
  rw [h]

theorem select_of_no_projection (h : f.options.projection = none) (records : List Value) :
    f.select records = .ok ((f.placesOf (some true) records).map records.get) := by
  rw [select_eq_filter h, map_get_placesOf]
  rfl

theorem reject_of_no_projection (h : f.options.projection = none) (records : List Value) :
    f.reject records = .ok ((f.placesOf (some false) records).map records.get) := by
  rw [reject_eq_filter h, map_get_placesOf]
  rfl

/-- A negated specification is read whenever the specification is, and its filter selects what the
other rejects. Without a projection the selected and the rejected records are those at the places of
the two verdicts, in their order, and each place has exactly one verdict. -/
theorem not_select_eq_reject {options : Value} (hf : ofSpec engine (.object d) = .ok f)
    (ho : FilterOptions.ofSpec options = .ok o) :
    (∃ f' g, ofSpecs engine (.object d) options = .ok f' ∧
      ofSpecs engine (.object [("$not", .object d)]) options = .ok g ∧
      ∀ records, g.select records = f'.reject records) ∧
    ∀ h : Filter, h.options.projection = none → ∀ records,
      h.select records = .ok ((h.placesOf (some true) records).map records.get) ∧
      h.reject records = .ok ((h.placesOf (some false) records).map records.get) ∧
      (∀ verdict, (h.placesOf verdict records).Pairwise (· < ·) ∧
        ((h.placesOf verdict records).map records.get).Sublist records) ∧
      ∀ i, ∃! verdict, i ∈ h.placesOf verdict records := by
  constructor
  · obtain ⟨c, j, hc, hj, -⟩ := withOptions_eq_ok_iff.1 hf
    have hf' : withOptions engine (.object d) o = .ok ⟨c, j, o⟩ :=
      withOptions_eq_ok_iff.2 ⟨c, j, hc, hj, rfl⟩
    obtain ⟨g, hg, hjudge, hoptions⟩ := withOptions_not hf'
    refine ⟨⟨c, j, o⟩, g, ?_, ?_, ?_⟩
    · rw [ofSpecs, ho]
      exact hf'
    · rw [ofSpecs, ho]
      exact hg
    · intro records
      unfold select reject output
      rw [selects_of_judge_eq_not hjudge, hoptions]
  · intro h hp records
    refine ⟨select_of_no_projection hp records, reject_of_no_projection hp records, ?_, ?_⟩
    · intro verdict
      refine ⟨pairwise_placesOf verdict records, ?_⟩
      rw [map_get_placesOf]
      exact List.filter_sublist
    · intro i
      refine ⟨h.judge (records.get i), mem_placesOf.2 rfl, ?_⟩
      intro verdict hv
      exact (mem_placesOf.1 hv).symm

/-- Dotted keys beside an operator, and a strict projection that a rejected record may lack. -/
theorem not_select_eq_reject_dotted :
    let d : Document := [("a.b", .object [("$gt", .bool false)]), ("c", .object [("d.e", .null)]),
      ("$or", .array [.object [("a.f", .null)]])]
    let options : Value := .object [("$project", .string "a"), ("$strict", .bool true)]
    (∃ f, ofSpec Regex.dialect (.object d) = .ok f) ∧
      (∃ o, FilterOptions.ofSpec options = .ok o) ∧
      ∃ f g, ofSpecs Regex.dialect (.object d) options = .ok f ∧
        ofSpecs Regex.dialect (.object [("$not", .object d)]) options = .ok g ∧
        ∀ records, g.select records = f.reject records := by
  intro d options
  obtain ⟨f, hf⟩ : ∃ f, ofSpec Regex.dialect (.object d) = .ok f := ⟨_, by cbv⟩
  obtain ⟨o, ho⟩ : ∃ o, FilterOptions.ofSpec options = .ok o := ⟨_, by cbv⟩
  exact ⟨⟨f, hf⟩, ⟨o, ho⟩, (not_select_eq_reject hf ho).1⟩

end Filter
end NestedData
