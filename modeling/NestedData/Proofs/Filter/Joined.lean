import NestedData.Filter.Fingerprint
import NestedData.Proofs.Text.Quoting
import Mathlib.Data.Char
import Mathlib.Data.List.Lex
import Mathlib.Data.List.Sort
/-!
Texts joined by commas inside brackets. If every text ends where a comma or the closing bracket
follows, the joined texts can be told from each other. Sorting texts forgets their order only.
-/

namespace NestedData.Value

/-- The text goes on after an item of a list that ends with `closing`. -/
def Follows (closing : Char) (r : List Char) : Prop :=
  ∃ a rest, r = a :: rest ∧ (a = ',' ∨ a = closing)

/-- Items of a list that ends with `closing`, told apart whatever follows them. -/
def ToldApart (closing : Char) (p q : List Char) : Prop :=
  ∀ r r', Follows closing r → Follows closing r' → p ++ r = q ++ r' → p = q ∧ r = r'

/-- The text has no place where an item of a list that ends with `closing` could end. -/
def Unbroken (closing : Char) (p : List Char) : Prop := ',' ∉ p ∧ closing ∉ p

theorem takeWhile_of_unbroken {closing : Char} {p r : List Char} (hp : Unbroken closing p)
    (hr : Follows closing r) :
    (p ++ r).takeWhile (fun c => c ≠ ',' ∧ c ≠ closing) = p := by
  have hp' : ∀ c ∈ p, decide (c ≠ ',' ∧ c ≠ closing) = true := fun c hc =>
    decide_eq_true ⟨fun h => hp.1 (h ▸ hc), fun h => hp.2 (h ▸ hc)⟩
  rw [List.takeWhile_append_of_pos hp']
  obtain ⟨a, rest, rfl, ha⟩ := hr
  have hstop : ¬ (a ≠ ',' ∧ a ≠ closing) := fun h => ha.elim h.1 h.2
  simp [hstop]

theorem toldApart_of_unbroken {closing : Char} {p q : List Char} (hp : Unbroken closing p)
    (hq : Unbroken closing q) : ToldApart closing p q := by
  intro r r' hr hr' h
  have hpq : p = q := by
    rw [← takeWhile_of_unbroken hp hr, h, takeWhile_of_unbroken hq hr']
  subst hpq
  exact ⟨rfl, List.append_cancel_left h⟩

theorem ToldApart.cons {closing : Char} {p q : List Char} (h : ToldApart closing p q) (c : Char) :
    ToldApart closing (c :: p) (c :: q) := by
  intro r r' hr hr' he
  obtain ⟨rfl, hrest⟩ := h r r' hr hr' (List.cons.inj he).2
  exact ⟨rfl, hrest⟩

theorem toldApart_member {closing : Char} {k l : String} {p q : List Char}
    (h : ToldApart closing p q) :
    ToldApart closing (Text.quoteShown k ++ p) (Text.quoteShown l ++ q) := by
  intro r r' hr hr' he
  rw [List.append_assoc, List.append_assoc] at he
  obtain ⟨rfl, hpq⟩ := Text.quoteShown_cancel he
  obtain ⟨rfl, hrest⟩ := h r r' hr hr' hpq
  exact ⟨rfl, hrest⟩

theorem commaJoined_cons (p : List Char) (ps : List (List Char)) :
    commaJoined (p :: ps) = p ++ ps.flatMap (',' :: ·) := by
  unfold commaJoined
  induction ps generalizing p with
  | nil => simp
  | cons q ps ih => simpa [List.intercalate, List.intersperse] using ih q

theorem follows_flatMap (closing : Char) (ps : List (List Char)) (r : List Char) :
    Follows closing (ps.flatMap (',' :: ·) ++ closing :: r) := by
  cases ps with
  | nil => exact ⟨closing, r, rfl, Or.inr rfl⟩
  | cons p ps => exact ⟨',', _, rfl, Or.inl rfl⟩

variable {closing : Char} {ps qs : List (List Char)} {r r' : List Char}

theorem flatMap_cancel (hc : closing ≠ ',') (h : ∀ p ∈ ps, ∀ q ∈ qs, ToldApart closing p q)
    (he : ps.flatMap (',' :: ·) ++ closing :: r = qs.flatMap (',' :: ·) ++ closing :: r') :
    ps = qs ∧ r = r' := by
  induction ps generalizing qs with
  | nil =>
    cases qs with
    | nil => exact ⟨rfl, (List.cons.inj he).2⟩
    | cons q qs => exact absurd (List.cons.inj he).1 hc
  | cons p ps ih =>
    cases qs with
    | nil => exact absurd (List.cons.inj he).1.symm hc
    | cons q qs =>
      rw [List.flatMap_cons, List.flatMap_cons, List.append_assoc, List.append_assoc] at he
      obtain ⟨rfl, hrest⟩ := h p List.mem_cons_self q List.mem_cons_self _ _
        (follows_flatMap closing ps r) (follows_flatMap closing qs r') (List.cons.inj he).2
      obtain ⟨rfl, hr⟩ := ih (fun p hp q hq => h p (List.mem_cons_of_mem _ hp) q
        (List.mem_cons_of_mem _ hq)) hrest
      exact ⟨rfl, hr⟩

/-- A joined list can be told from what follows it, and its items from each other. -/
theorem commaJoined_cancel (hc : closing ≠ ',') (h : ∀ p ∈ ps, ∀ q ∈ qs, ToldApart closing p q)
    (hps : ∀ p ∈ ps, p ≠ [] ∧ p.head? ≠ some closing)
    (hqs : ∀ q ∈ qs, q ≠ [] ∧ q.head? ≠ some closing)
    (he : commaJoined ps ++ closing :: r = commaJoined qs ++ closing :: r') :
    ps = qs ∧ r = r' := by
  have hopen {p s s' : List Char} (hp : p ≠ [] ∧ p.head? ≠ some closing) :
      p ++ s ≠ closing :: s' := by
    obtain ⟨a, p', rfl⟩ := List.exists_cons_of_ne_nil hp.1
    exact fun hs => hp.2 (congrArg some (List.cons.inj hs).1)
  cases ps with
  | nil =>
    cases qs with
    | nil => exact ⟨rfl, (List.cons.inj he).2⟩
    | cons q qs =>
      rw [commaJoined_cons, List.append_assoc] at he
      exact absurd he.symm (hopen (hqs q List.mem_cons_self))
  | cons p ps =>
    cases qs with
    | nil =>
      rw [commaJoined_cons, List.append_assoc] at he
      exact absurd he (hopen (hps p List.mem_cons_self))
    | cons q qs =>
      rw [commaJoined_cons, commaJoined_cons, List.append_assoc, List.append_assoc] at he
      obtain ⟨rfl, hrest⟩ := h p List.mem_cons_self q List.mem_cons_self _ _
        (follows_flatMap closing ps r) (follows_flatMap closing qs r') he
      obtain ⟨rfl, hr⟩ := flatMap_cancel hc (fun p hp q hq => h p (List.mem_cons_of_mem _ hp) q
        (List.mem_cons_of_mem _ hq)) hrest
      exact ⟨rfl, hr⟩

def sorted (prints : List (List Char)) : List (List Char) :=
  prints.mergeSort fun a b => Comparison.ofTexts a b != .gt

theorem sorted_perm (ps : List (List Char)) : (sorted ps).Perm ps := List.mergeSort_perm ps _

theorem ofTexts_ne_gt (a b : List Char) : (Comparison.ofTexts a b != .gt) = decide (a ≤ b) := by
  unfold Comparison.ofTexts compareOfLessAndEq
  rcases lt_trichotomy a b with h | rfl | h
  · simp [h, h.le]
  · simp
  · simp [h.not_gt, h.ne', h.not_ge]

theorem sorted_eq_sorted_iff : sorted ps = sorted qs ↔ ps.Perm qs := by
  constructor
  · intro h
    exact (sorted_perm ps).symm.trans (h ▸ sorted_perm qs)
  · intro h
    have hle (ps : List (List Char)) : (sorted ps).Pairwise (· ≤ ·) := by
      unfold sorted
      simp only [ofTexts_ne_gt]
      exact List.pairwise_mergeSort' (· ≤ ·) ps
    exact ((sorted_perm ps).trans (h.trans (sorted_perm qs).symm)).eq_of_pairwise
      (fun a b _ _ hab hba => le_antisymm hab hba) (hle ps) (hle qs)

end NestedData.Value
