import NestedData.Filter.Basic
import NestedData.Proofs.Filter.Expanded
import NestedData.Proofs.Filter.Parts
/-!
How documents are read: entry by entry, once nothing is left to expand. The filter of a document is
the judgement of what is read, with the options.
-/

namespace NestedData

theorem Operator.isOperatorKey_key (op : Operator) : isOperatorKey op.key = true := by
  cases op <;> decide

theorem Operator.ofKey?_key (op : Operator) : Operator.ofKey? op.key = some op := by
  cases op <;> decide

theorem Operator.key_of_ofKey? {key : String} {op : Operator} (h : Operator.ofKey? key = some op) :
    op.key = key := by
  simpa using List.find?_some h

namespace Filter

variable {engine : Regex.Engine} {d : Document} {k : String} {o : FilterOptions} {f : Filter}

theorem entries_eq_mapM (es : Document) : entries es = es.mapM fun e => entry e.1 e.2 := by
  induction es with
  | nil => rw [entries]; rfl
  | cons e es ih =>
    obtain ⟨k, v⟩ := e
    rw [entries, List.mapM_cons, ih]

theorem entries_eq_ok_iff {es : Document} {cs : List Condition} :
    entries es = .ok cs ↔ List.Forall₂ (fun e c => entry e.1 e.2 = .ok c) es cs := by
  rw [entries_eq_mapM]
  exact mapM_eq_ok_iff

theorem document_eq (d : Document) : document d = (entries (expand d)).map .all := by
  rw [document]

theorem entry_not (d : Document) : entry Operator.not.key (.object d) = (document d).map .not := by
  rw [entry, if_pos Operator.not.isOperatorKey_key, Operator.not.ofKey?_key]

theorem entry_field (hk : isOperatorKey k = false) (d : Document) :
    entry k (.object d) = fieldSpec k d := by
  rw [entry.eq_def, if_neg (Bool.eq_false_iff.1 hk)]

theorem entry_literal {literal : Value} (hk : isOperatorKey k = false)
    (hl : literal.isObject = false) : entry k literal = .ok (.compare k .eq literal) := by
  rw [entry.eq_def, if_neg (Bool.eq_false_iff.1 hk)]
  cases literal with
  | object d => cases hl
  | null | bool | number | string | array => rfl

theorem fieldSpec_document (field : String) (hd : hasOperator d = false) (hne : d ≠ []) :
    fieldSpec field d = (document d).map (.group field) := by
  have hgroup : (!hasOperator d && !d.isEmpty) = true := by
    rw [hd, List.isEmpty_eq_false_iff.2 hne]
    rfl
  rw [fieldSpec.eq_def, if_pos hgroup]

theorem entry_object (hk : isOperatorKey k = false) (hd : hasOperator d = false) (hne : d ≠ []) :
    entry k (.object d) = (document d).map (.group k) := by
  rw [entry_field hk, fieldSpec_document k hd hne]

theorem withOptions_eq_ok_iff : withOptions engine (.object d) o = .ok f ↔
    ∃ c j, document d = .ok c ∧ c.compile engine = .ok j ∧ f = ⟨c, j, o⟩ := by
  unfold withOptions ofCondition
  rw [bind_eq_ok_iff]
  simp only [map_eq_ok_iff]
  constructor
  · rintro ⟨c, hc, j, hj, rfl⟩
    exact ⟨c, j, hc, hj, rfl⟩
  · rintro ⟨c, j, hc, hj, rfl⟩
    exact ⟨c, hc, j, hj, rfl⟩

end Filter
end NestedData
