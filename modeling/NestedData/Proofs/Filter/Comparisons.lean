import NestedData.Filter.Comparison
import NestedData.Proofs.Number.Comparing
import Mathlib.Data.Char
import Mathlib.Data.List.Lex
/-!
The comparison operators. Two values have an order whichever of them comes first, and then it is
turned round with them. So each operator says what its opposite denies and what its mirror image
says of the values turned round, and of two numbers, strings or booleans neither is before the other
just when they are equal.
-/

namespace NestedData.Comparison

variable {a b : Value}

theorem ofTexts_swap (s t : List Char) : ofTexts t s = (ofTexts s t).swap := by
  unfold ofTexts compareOfLessAndEq
  rcases lt_trichotomy s t with h | rfl | h
  · simp [h, h.not_gt, h.ne']
  · simp
  · simp [h, h.not_gt, h.ne']

theorem ofTexts_eq_iff {s t : List Char} : ofTexts s t = .eq ↔ s = t := by
  unfold ofTexts compareOfLessAndEq
  rcases lt_trichotomy s t with h | rfl | h
  · simp [h, h.ne]
  · simp
  · simp [h.not_gt, h.ne']

theorem order?_swap (a b : Value) : order? b a = (order? a b).map Ordering.swap := by
  cases a with
  | number m =>
    cases b with
    | number n => exact congrArg some (m.order_swap n)
    | string t => exact congrArg some (ofTexts_swap _ _)
    | null | bool | array | object => rfl
  | string s =>
    cases b with
    | string t => exact congrArg some (ofTexts_swap _ _)
    | number n => exact congrArg some (ofTexts_swap _ _)
    | null | bool | array | object => rfl
  | bool p =>
    cases b with
    | bool q => exact congrArg some Std.OrientedOrd.eq_swap
    | null | number | string | array | object => rfl
  | null | array | object => cases b <;> rfl

/-- Two numbers, two strings or two booleans. -/
def SameKind : Value → Value → Prop
  | .number _, .number _ => True
  | .string _, .string _ => True
  | .bool _, .bool _ => True
  | _, _ => False

theorem order?_eq_iff_equal (h : SameKind a b) : order? a b = some .eq ↔ a.equal b = true := by
  match a, b with
  | .number m, .number n =>
    rw [order?, Option.some.injEq, Value.equal, Value.alike, decide_eq_true_eq]
  | .string s, .string t =>
    rw [order?, Option.some.injEq, ofTexts_eq_iff, String.toList_inj, Value.equal, Value.alike,
      decide_eq_true_eq]
  | .bool p, .bool q =>
    rw [order?, Option.some.injEq, compare_eq_iff_eq, Value.equal, Value.alike, decide_eq_true_eq]

theorem test_eq_none_iff {c : Comparison} (hc : c ≠ .eq) (a b : Value) :
    c.test a b = none ↔ order? a b = none := by
  cases c with
  | eq => exact absurd rfl hc
  | gt | lt | gte | lte => exact Option.map_eq_none_iff

theorem test_gte (a b : Value) : test .gte a b = (test .lt a b).map (!·) := by
  dsimp only [test]
  cases order? a b with
  | none => rfl
  | some o => cases o <;> rfl

theorem test_lte (a b : Value) : test .lte a b = (test .gt a b).map (!·) := by
  dsimp only [test]
  cases order? a b with
  | none => rfl
  | some o => cases o <;> rfl

theorem test_gt (a b : Value) : test .gt a b = test .lt b a := by
  dsimp only [test]
  rw [order?_swap a b]
  cases order? a b with
  | none => rfl
  | some o => cases o <;> rfl

theorem gte_and_lte_iff (a b : Value) :
    test .gte a b = some true ∧ test .lte a b = some true ↔ order? a b = some .eq := by
  unfold test
  cases order? a b with
  | none => simp
  | some o => cases o <;> simp

/-- The operators fit together. Both orders of two values exist or neither does, and one is the
other turned round; with them all four operators of order give a verdict or none does. One that
gives a verdict is the negation of its opposite and holds of the values turned round where its
mirror image does; exactly one of greater, less and neither is the case; and neither is the case for
two numbers, strings or booleans just when they are equal. -/
theorem comparisons_cohere (a b : Value) :
    order? b a = (order? a b).map Ordering.swap ∧
    (∀ c d : Comparison, c ≠ .eq → d ≠ .eq → (c.test a b = none ↔ d.test a b = none)) ∧
    test .gte a b = (test .lt a b).map (!·) ∧
    test .lte a b = (test .gt a b).map (!·) ∧
    test .gt a b = test .lt b a ∧
    (order? a b ≠ none →
      let greater := test .gt a b = some true
      let less := test .lt a b = some true
      let neither := test .gte a b = some true ∧ test .lte a b = some true
      greater ∧ ¬ less ∧ ¬ neither ∨ ¬ greater ∧ less ∧ ¬ neither ∨
        ¬ greater ∧ ¬ less ∧ neither) ∧
    (SameKind a b → (test .gte a b = some true ∧ test .lte a b = some true ↔
      test .eq a b = some true)) := by
  refine ⟨order?_swap a b, ?_, test_gte a b, test_lte a b, test_gt a b, ?_, ?_⟩
  · intro c d hc hd
    rw [test_eq_none_iff hc, test_eq_none_iff hd]
  · intro hdefined
    dsimp only
    rw [gte_and_lte_iff, test, test]
    cases h : order? a b with
    | none => exact absurd h hdefined
    | some o => cases o <;> simp
  · intro hkind
    rw [gte_and_lte_iff, order?_eq_iff_equal hkind, test, Option.some.injEq]

/-- A number and a string compare as texts. -/
example : test .lt (.number (.integer 10)) (.string "9") = some true := by decide

end NestedData.Comparison
