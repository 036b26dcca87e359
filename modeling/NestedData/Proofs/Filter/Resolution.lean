import NestedData.Proofs.Filter.FieldOperators
import NestedData.Proofs.Filter.Nesting
import NestedData.Regex.Dialect
/-!
Paths as filters and as containers resolve them. A filter on a dotted key follows the key through a
record field by field; a container follows it through the tree of the record child by child. They
differ where a list is asked for an item by another text than its index in decimal digits: a filter
takes a plus and zeros before the index.
-/

namespace NestedData

open Value (Misindexed)

namespace Judgement

theorem below_eq (path : List String) (j : Judgement) (r : Value) :
    below path j r = (r.follow? path).bind j := by
  induction path generalizing r with
  | nil => rfl
  | cons field path ih =>
    show (r.field? field).bind (below path j) = ((r.field? field).bind (Value.follow? path)).bind j
    rw [Option.bind_assoc]
    exact congrArg _ (funext ih)

theorem below_compare_eq (parents : List String) (name : String) (literal r : Value) :
    below parents (compare name .eq literal) r =
      (r.follow? (parents ++ [name])).map (·.equal literal) := by
  have hbelow : below parents (compare name .eq literal) =
      below (parents ++ [name]) fun v => Comparison.eq.test v literal := by
    rw [below, below, List.foldr_append]
    rfl
  rw [hbelow, below_eq, Option.map_eq_bind]
  rfl

end Judgement

namespace Filter

variable {segments : List String} {literal : Value}

def IsSegment (s : String) : Prop := s ≠ "" ∧ '.' ∉ s.toList ∧ isOperatorKey s = false

instance (s : String) : Decidable (IsSegment s) := inferInstanceAs (Decidable (_ ∧ _ ∧ _))

theorem cutAt_dotted (hne : segments ≠ []) (hs : ∀ s ∈ segments, IsSegment s) :
    Text.cutAt ['.'] (Text.join "." segments).toList = segments.map String.toList :=
  Text.cutAt_join (fun s h => (hs s h).2.1) hne

theorem segmented_dotted (hne : segments ≠ []) (hs : ∀ s ∈ segments, IsSegment s) :
    Segmented (Text.join "." segments) := by
  rw [Segmented, Plain, cutAt_dotted hne hs, List.forall_mem_map]
  constructor
  · intro s hm
    exact of_decide_eq_false (hs s hm).2.2
  · intro hnil
    obtain ⟨s, hm, hs'⟩ := List.mem_map.1 hnil
    exact (hs s hm).1 (String.toList_eq_nil_iff.1 hs')

theorem keyPath_dotted (hne : segments ≠ []) (hs : ∀ s ∈ segments, IsSegment s) :
    keyPath (Text.join "." segments) = segments := by
  rw [(segmented_dotted hne hs).keyPath_eq, cutAt_dotted hne hs, List.map_map]
  exact map_eq_self_iff.2 fun s _ => String.ofList_toList

/-- The filter that asks for a literal at a path. -/
theorem ofSpec_literal (engine : Regex.Engine) (hne : segments ≠ [])
    (hs : ∀ s ∈ segments, IsSegment s) (hl : literal.isObject = false) :
    ∃ f, ofSpec engine (.object [(Text.join "." segments, literal)]) = .ok f ∧
      ∀ r, f.judge r = (r.follow? segments).map (·.equal literal) := by
  obtain ⟨parents, name, rfl⟩ : ∃ parents name, segments = parents ++ [name] :=
    ⟨_, _, (List.dropLast_append_getLast hne).symm⟩
  have hname : isOperatorKey name = false :=
    (hs name (List.mem_append_right parents List.mem_cons_self)).2.2
  have hsame : expandValue literal = literal :=
    (Expanded.literal (Value.members?_eq_none_iff.2 hl)).expandValue_eq
  have hjudges : Judges engine
      (Condition.ofSpec (.object [(Text.join "." (parents ++ [name]), literal)]))
      (Judgement.below parents (.compare name .eq literal)) := by
    show Judges engine (document _) _
    rw [(segmented_dotted hne hs).1.judges (keyPath_dotted hne hs), hsame, entry_literal hname hl]
    exact ⟨_, (judges_ok rfl).2 rfl, rfl⟩
  obtain ⟨f, hf, hj⟩ := judges_ofSpec.2 hjudges
  refine ⟨f, hf, ?_⟩
  intro r
  rw [hj, Judgement.below_compare_eq]

/-- A filter on a path fails to judge just the records in whose trees the path leads nowhere, but
for records that it judges by an item asked for with another text than its key. -/
theorem unjudged_iff_unreachable_iff (engine : Regex.Engine) (hne : segments ≠ [])
    (hs : ∀ s ∈ segments, IsSegment s) (hl : literal.isObject = false) :
    ∃ f, ofSpec engine (.object [(Text.join "." segments, literal)]) = .ok f ∧
      ∀ r, r.WellFormed → ((f.judge r = none ↔ (Tree.ofValue [] r).find? segments = none) ↔
        ¬ ((f.judge r).isSome ∧ Misindexed segments r)) := by
  obtain ⟨f, hf, hjudge⟩ := ofSpec_literal engine hne hs hl
  refine ⟨f, hf, ?_⟩
  intro r hr
  by_cases hm : Misindexed segments r
  · rw [Tree.find?_ofValue_of_misindexed hr hm]
    simp [hm]
  · rw [Tree.find?_ofValue hr hm, hjudge]
    simp [hm]

/-- An item under its key, in a list below an object. -/
theorem unjudged_iff_unreachable_item :
    let items : List Value := [.string "x", .string "y"]
    let r : Value := .object [("a", .array items)]
    (∀ s ∈ ["a", "1"], IsSegment s) ∧ r.WellFormed ∧
      ∃ f, ofSpec Regex.dialect (.object [("a.1", .string "y")]) = .ok f ∧
        (f.judge r = none ↔ (Tree.ofValue [] r).find? ["a", "1"] = none) := by
  intro items r
  have hs : ∀ s ∈ ["a", "1"], IsSegment s := by decide
  have hr : r.WellFormed := by decide
  have hl : (Value.string "y").isObject = false := rfl
  have hlist : ¬ Misindexed ["1"] (.array items) := by
    intro hm
    cases hm with
    | here denotes other =>
      have hindex : index? "1" = some 1 := by decide
      obtain rfl := Option.some.inj (hindex.symm.trans denotes)
      exact other (by decide)
    | further _ rest => cases rest
  have hexact : ¬ Misindexed ["a", "1"] (.object [("a", .array items)]) := by
    intro hm
    cases hm with
    | further step rest =>
      obtain rfl : Value.array items = _ := by simpa [Value.field?, Dict.get?] using step
      exact hlist rest
  obtain ⟨f, hf, h⟩ := unjudged_iff_unreachable_iff Regex.dialect (List.cons_ne_nil _ _) hs hl
  exact ⟨hs, hr, f, hf, (h r hr).2 fun hm => hexact hm.2⟩

/-- A plus, or a zero, before the index: the filter judges the item, and the tree has none there. -/
theorem unjudged_ne_unreachable_plus :
    let r : Value := .object [("a", .array [.string "x", .string "y"])]
    (∃ f, ofSpec Regex.dialect (.object [("a.+1", .string "y")]) = .ok f ∧ f.judge r = some true ∧
      (Tree.ofValue [] r).find? ["a", "+1"] = none) ∧
    ∃ f, ofSpec Regex.dialect (.object [("a.01", .string "y")]) = .ok f ∧ f.judge r = some true ∧
      (Tree.ofValue [] r).find? ["a", "01"] = none := by
  intro r
  have hr : r.WellFormed := by decide
  have hl : (Value.string "y").isObject = false := rfl
  have hplus : Misindexed ["a", "+1"] r := .further rfl (.here (i := 1) (by decide) (by decide))
  have hzero : Misindexed ["a", "01"] r := .further rfl (.here (i := 1) (by decide) (by decide))
  constructor
  · have hs : ∀ s ∈ ["a", "+1"], IsSegment s := by decide
    obtain ⟨f, hf, hjudge⟩ := ofSpec_literal Regex.dialect (List.cons_ne_nil _ _) hs hl
    exact ⟨f, hf, (hjudge r).trans (by decide), Tree.find?_ofValue_of_misindexed hr hplus⟩
  · have hs : ∀ s ∈ ["a", "01"], IsSegment s := by decide
    obtain ⟨f, hf, hjudge⟩ := ofSpec_literal Regex.dialect (List.cons_ne_nil _ _) hs hl
    exact ⟨f, hf, (hjudge r).trans (by decide), Tree.find?_ofValue_of_misindexed hr hzero⟩

end Filter
end NestedData
