import NestedData.Json.Token
import NestedData.Proofs.Number.DecimalText
/-!
Numbers and their texts as JSON. An integer in the range of 64 bits is read from its text as
itself, and whatever is read as an integer lies in that range.
-/

namespace NestedData.Number

open Json (digits exponent? fraction? number?)

/-- Integers stay in the signed or the unsigned range of 64 bits. -/
def InRange : Number → Prop
  | .integer n => smallestInteger ≤ n ∧ n ≤ largestInteger
  | .binary _ => True

def ReadsBack (n : Number) : Prop := (number? n.text).bind ofLiteral? = some n

instance (n : Number) : Decidable n.ReadsBack := inferInstanceAs (Decidable (_ = _))

theorem inRange_of_ofLiteral? {l : NumberLiteral} {n : Number} (h : ofLiteral? l = some n) :
    n.InRange := by
  unfold ofLiteral? at h
  dsimp only at h
  generalize (if l.negative = true then -_ else _ : ℤ) = m at h
  split at h
  · rename_i hl
    obtain rfl := Option.some.inj h
    exact ⟨hl.2.2.1, hl.2.2.2.1⟩
  · obtain ⟨x, -, rfl⟩ := Option.map_eq_some_iff.1 h
    trivial

theorem toDigits_ne_zero_cons {n : ℕ} (hn : 0 < n) (cs : List Char) :
    Nat.toDigits 10 n ≠ '0' :: cs := by
  induction n using Nat.strong_induction_on generalizing cs with
  | _ n ih =>
    rw [Nat.toDigits_eq_if (by decide)]
    split
    · rename_i hlt
      have hdigit : ∀ m < 10, 0 < m → Nat.digitChar m ≠ '0' := by decide
      intro h
      exact hdigit n hlt hn (List.cons.inj h).1
    · rename_i hge
      intro h
      obtain ⟨c, ds, hds⟩ :=
        List.exists_cons_of_ne_nil (Nat.toDigits_ne_nil (b := 10) (n := n / 10))
      rw [hds, List.cons_append] at h
      obtain ⟨rfl, -⟩ := List.cons.inj h
      exact ih (n / 10) (by omega) (by omega) ds hds

theorem toDigits_ne_zero_cons_cons (n : ℕ) (c : Char) (cs : List Char) :
    Nat.toDigits 10 n ≠ '0' :: c :: cs := by
  rcases Nat.eq_zero_or_pos n with rfl | hn
  · simp
  · exact toDigits_ne_zero_cons hn (c :: cs)

theorem digits_of_digits {cs : List Char} (h : Digits cs) : digits cs = (cs, []) := by
  rw [digits, List.span_eq_takeWhile_dropWhile, List.takeWhile_eq_self_iff.2 h,
    List.dropWhile_eq_nil_iff.2 h]

theorem number?_digits {cs : List Char} (h : Digits cs) (hne : cs ≠ [])
    (hz : ∀ c ds, cs ≠ '0' :: c :: ds) (negative : Bool) :
    number? (if negative then '-' :: cs else cs) = some ⟨negative, cs, [], none⟩ := by
  unfold number?
  split
  rename_i sign rest heq
  have hsign : (sign, rest) = (negative, cs) := by
    rw [← heq]
    cases negative with
    | true => rfl
    | false =>
      rw [if_neg Bool.false_ne_true]
      split
      · exact absurd List.mem_cons_self (h.not_mem (c := '-') (by decide))
      · rfl
  obtain ⟨rfl, rfl⟩ := Prod.mk.inj hsign
  rw [digits_of_digits h]
  dsimp only
  split
  · exact absurd rfl hne
  · exact absurd rfl (hz _ _)
  · rfl

theorem readsBack_integer {n : ℤ} (h : InRange (.integer n)) : ReadsBack (.integer n) := by
  have hdigits := digits_toDigits n.natAbs
  have hread : number? (integerText n) =
      some ⟨decide (n < 0), Nat.toDigits 10 n.natAbs, [], none⟩ := by
    have hn := number?_digits hdigits Nat.toDigits_ne_nil
      (toDigits_ne_zero_cons_cons n.natAbs) (decide (n < 0))
    rw [← hn, integerText]
    congr 1
    by_cases hneg : n < 0 <;> simp [hneg]
  have hvalue : (Nat.toDigits 10 n.natAbs).foldl (fun n d => 10 * n + digitValue d) 0 = n.natAbs :=
    Nat.ofDigitChars_ten_toDigits
  have hsigned : (if decide (n < 0) then -(n.natAbs : ℤ) else n.natAbs) = n := by
    by_cases hneg : n < 0
    · rw [if_pos (decide_eq_true hneg)]
      omega
    · rw [if_neg (by simpa using hneg)]
      omega
  have hzero : ¬ (decide (n < 0) = true ∧ n = 0) := by
    rintro ⟨hneg, rfl⟩
    exact absurd hneg (by decide)
  change (number? (integerText n)).bind ofLiteral? = _
  rw [hread, Option.bind_some, ofLiteral?]
  dsimp only
  rw [hvalue, hsigned, if_pos ⟨rfl, rfl, h.1, h.2, hzero⟩]

end NestedData.Number
