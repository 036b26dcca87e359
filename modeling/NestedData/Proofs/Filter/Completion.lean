import NestedData.Proofs.Filter.Parts
import NestedData.Regex.Dialect
/-!
Verdicts and two-valued evaluation. The questions of a condition that cannot be judged may be
answered either way; a verdict is what two-valued evaluation gives however they are answered,
although judging stops early. Questions are told apart by their places in the condition.
-/

namespace NestedData.Condition

/-- Answers to the questions of a condition, by their places: the list of the steps from the whole
to the question, where a step into a conjunction or disjunction is the index of the part. -/
abbrev Answers := List Nat → Bool

def Answers.below (a : Answers) (i : Nat) : Answers := fun place => a (i :: place)

section Evaluation

variable (engine : Regex.Engine)

def verdict? (c : Condition) (r : Value) : Option Bool := (c.compile engine).toOption.bind (· r)

mutual
/-- The places of the questions that cannot be judged. A group asks its own questions of the record
that its field holds; if there is none, the group itself is the question. -/
def unjudged : Condition → Value → List (List Nat)
  | .all parts, r => unjudgedIn 0 parts r
  | .any parts, r => unjudgedIn 0 parts r
  | .not c, r => (unjudged c r).map (0 :: ·)
  | .group f c, r =>
    match r.field? f with
    | none => [[]]
    | some x => (unjudged c x).map (0 :: ·)
  | leaf, r => if leaf.verdict? engine r = none then [[]] else []

def unjudgedIn (i : Nat) : List Condition → Value → List (List Nat)
  | [], _ => []
  | c :: rest, r => (unjudged c r).map (i :: ·) ++ unjudgedIn (i + 1) rest r
end

mutual
/-- Two-valued evaluation, with answers to the questions that cannot be judged. -/
def holds (a : Answers) : Condition → Value → Bool
  | .all parts, r => allHold a 0 parts r
  | .any parts, r => anyHolds a 0 parts r
  | .not c, r => !holds (a.below 0) c r
  | .group f c, r =>
    match r.field? f with
    | none => a []
    | some x => holds (a.below 0) c x
  | leaf, r => (leaf.verdict? engine r).getD (a [])

def allHold (a : Answers) (i : Nat) : List Condition → Value → Bool
  | [], _ => true
  | c :: rest, r => holds (a.below i) c r && allHold a (i + 1) rest r

def anyHolds (a : Answers) (i : Nat) : List Condition → Value → Bool
  | [], _ => false
  | c :: rest, r => holds (a.below i) c r || anyHolds a (i + 1) rest r
end

end Evaluation

variable {engine : Regex.Engine} {c : Condition} {parts : List Condition} {j k : Judgement}
  {js : List Judgement} {r : Value} {a b : Answers}

theorem verdict?_of_compile (h : c.compile engine = .ok j) (r : Value) :
    c.verdict? engine r = j r := by
  rw [verdict?, h]
  rfl

theorem holds_of_isLeaf (hc : c.isLeaf = true) (a : Answers) (r : Value) :
    c.holds engine a r = (c.verdict? engine r).getD (a []) := by
  cases c with
  | compare | between | oneOf | text => simp [holds]
  | all | any | not | group => cases hc

theorem unjudged_of_isLeaf (hc : c.isLeaf = true) (r : Value) :
    c.unjudged engine r = if c.verdict? engine r = none then [[]] else [] := by
  cases c with
  | compare | between | oneOf | text => simp [unjudged]
  | all | any | not | group => cases hc

/-- A verdict, if there is one, is the truth value. -/
def Settles (verdict : Option Bool) (truth : Bool) : Prop := ∀ v, verdict = some v → truth = v

theorem Settles.not {x : Bool} (h : Settles (j r) x) : Settles (j.not r) (!x) := by
  intro v hv
  obtain ⟨w, hw, rfl⟩ := Option.map_eq_some_iff.1 hv
  rw [h w hw]

theorem Settles.and {x y : Bool} (hx : Settles (j r) x) (hy : Settles (k r) y) :
    Settles (j.and k r) (x && y) := by
  intro v hv
  unfold Judgement.and at hv
  cases hj : j r with
  | none =>
    rw [hj] at hv
    cases hv
  | some w =>
    rw [hj] at hv
    rw [hx w hj]
    cases w with
    | false => exact Option.some.inj hv
    | true => exact hy v hv

theorem Settles.or {x y : Bool} (hx : Settles (j r) x) (hy : Settles (k r) y) :
    Settles (j.or k r) (x || y) := by
  have hxy : (x || y) = !(!x && !y) := by
    rw [Bool.not_and, Bool.not_not, Bool.not_not]
  rw [Judgement.or_eq_not_and_not, hxy]
  exact (hx.not.and hy.not).not

theorem settles_all (h : List.Forall₂ (fun c j => ∀ a, Settles (j r) (c.holds engine a r)) parts js)
    (a : Answers) (i : Nat) : Settles (Judgement.all js r) (allHold engine a i parts r) := by
  induction h generalizing i with
  | nil =>
    rintro v ⟨⟩
    rfl
  | cons hc _ ih =>
    rw [allHold]
    exact (hc (a.below i)).and (ih (i + 1))

theorem settles_any (h : List.Forall₂ (fun c j => ∀ a, Settles (j r) (c.holds engine a r)) parts js)
    (a : Answers) (i : Nat) : Settles (Judgement.any js r) (anyHolds engine a i parts r) := by
  induction h generalizing i with
  | nil =>
    rintro v ⟨⟩
    rfl
  | cons hc _ ih =>
    rw [anyHolds]
    exact (hc (a.below i)).or (ih (i + 1))

theorem settles_holds (h : c.compile engine = .ok j) (a : Answers) (r : Value) :
    Settles (j r) (c.holds engine a r) := by
  induction c generalizing j a r with
  | all parts ih =>
    obtain ⟨js, hjs, rfl⟩ := compile_all.1 h
    rw [holds]
    exact settles_all (hjs.imp_mem fun c hc j hj a => ih c hc hj a r) a 0
  | any parts ih =>
    obtain ⟨js, hjs, rfl⟩ := compile_any.1 h
    rw [holds]
    exact settles_any (hjs.imp_mem fun c hc j hj a => ih c hc hj a r) a 0
  | not c ih =>
    obtain ⟨k, hk, rfl⟩ := compile_not.1 h
    rw [holds]
    exact (ih hk (a.below 0) r).not
  | group f c ih =>
    obtain ⟨k, hk, rfl⟩ := compile_group.1 h
    unfold Judgement.onField
    rw [holds]
    cases r.field? f with
    | none =>
      rintro v ⟨⟩
    | some x => exact ih hk (a.below 0) x
  | leaf c hc =>
    intro v hv
    rw [holds_of_isLeaf hc, verdict?_of_compile h, hv]
    rfl

theorem isSome_not (hj : (j r).isSome) : (j.not r).isSome := by
  rw [Judgement.not, Option.isSome_map]
  exact hj

theorem isSome_and (hj : (j r).isSome) (hk : (k r).isSome) : (j.and k r).isSome := by
  obtain ⟨v, hv⟩ := Option.isSome_iff_exists.1 hj
  unfold Judgement.and
  rw [hv]
  cases v with
  | false => rfl
  | true => exact hk

theorem isSome_or (hj : (j r).isSome) (hk : (k r).isSome) : (j.or k r).isSome := by
  rw [Judgement.or_eq_not_and_not]
  exact isSome_not (isSome_and (isSome_not hj) (isSome_not hk))

theorem isSome_all {i : Nat}
    (h : List.Forall₂ (fun c j => c.unjudged engine r = [] → (j r).isSome) parts js)
    (hn : unjudgedIn engine i parts r = []) : (Judgement.all js r).isSome := by
  induction h generalizing i with
  | nil => rfl
  | cons hc _ ih =>
    rw [unjudgedIn, List.append_eq_nil_iff, List.map_eq_nil_iff] at hn
    exact isSome_and (hc hn.1) (ih hn.2)

theorem isSome_any {i : Nat}
    (h : List.Forall₂ (fun c j => c.unjudged engine r = [] → (j r).isSome) parts js)
    (hn : unjudgedIn engine i parts r = []) : (Judgement.any js r).isSome := by
  induction h generalizing i with
  | nil => rfl
  | cons hc _ ih =>
    rw [unjudgedIn, List.append_eq_nil_iff, List.map_eq_nil_iff] at hn
    exact isSome_or (hc hn.1) (ih hn.2)

theorem isSome_of_unjudged_eq_nil (h : c.compile engine = .ok j) (hn : c.unjudged engine r = []) :
    (j r).isSome := by
  induction c generalizing j r with
  | all parts ih =>
    obtain ⟨js, hjs, rfl⟩ := compile_all.1 h
    rw [unjudged] at hn
    exact isSome_all (hjs.imp_mem fun c hc j hj hr => ih c hc hj hr) hn
  | any parts ih =>
    obtain ⟨js, hjs, rfl⟩ := compile_any.1 h
    rw [unjudged] at hn
    exact isSome_any (hjs.imp_mem fun c hc j hj hr => ih c hc hj hr) hn
  | not c ih =>
    obtain ⟨k, hk, rfl⟩ := compile_not.1 h
    rw [unjudged, List.map_eq_nil_iff] at hn
    exact isSome_not (ih hk hn)
  | group f c ih =>
    obtain ⟨k, hk, rfl⟩ := compile_group.1 h
    unfold Judgement.onField
    rw [unjudged] at hn
    cases hf : r.field? f with
    | none =>
      rw [hf] at hn
      cases hn
    | some x =>
      rw [hf] at hn
      exact ih hk (List.map_eq_nil_iff.1 hn)
  | leaf c hc =>
    rw [unjudged_of_isLeaf hc, verdict?_of_compile h] at hn
    rw [Option.isSome_iff_ne_none]
    intro hr
    rw [if_pos hr] at hn
    cases hn

theorem allHold_congr {i : Nat}
    (ih : ∀ c ∈ parts, ∀ a b : Answers, (∀ p ∈ c.unjudged engine r, a p = b p) →
      c.holds engine a r = c.holds engine b r)
    (h : ∀ p ∈ unjudgedIn engine i parts r, a p = b p) :
    allHold engine a i parts r = allHold engine b i parts r := by
  induction parts generalizing i with
  | nil => rfl
  | cons c parts ihs =>
    rw [unjudgedIn, List.forall_mem_append, List.forall_mem_map] at h
    rw [List.forall_mem_cons] at ih
    rw [allHold, allHold, ih.1 (a.below i) (b.below i) h.1, ihs ih.2 h.2]

theorem anyHolds_congr {i : Nat}
    (ih : ∀ c ∈ parts, ∀ a b : Answers, (∀ p ∈ c.unjudged engine r, a p = b p) →
      c.holds engine a r = c.holds engine b r)
    (h : ∀ p ∈ unjudgedIn engine i parts r, a p = b p) :
    anyHolds engine a i parts r = anyHolds engine b i parts r := by
  induction parts generalizing i with
  | nil => rfl
  | cons c parts ihs =>
    rw [unjudgedIn, List.forall_mem_append, List.forall_mem_map] at h
    rw [List.forall_mem_cons] at ih
    rw [anyHolds, anyHolds, ih.1 (a.below i) (b.below i) h.1, ihs ih.2 h.2]

/-- Only the answers to questions that cannot be judged matter. -/
theorem holds_congr (h : ∀ p ∈ c.unjudged engine r, a p = b p) :
    c.holds engine a r = c.holds engine b r := by
  induction c generalizing a b r with
  | all parts ih =>
    rw [unjudged] at h
    rw [holds, holds]
    exact allHold_congr (fun c hc a b => ih c hc) h
  | any parts ih =>
    rw [unjudged] at h
    rw [holds, holds]
    exact anyHolds_congr (fun c hc a b => ih c hc) h
  | not c ih =>
    rw [unjudged, List.forall_mem_map] at h
    have hc : c.holds engine (a.below 0) r = c.holds engine (b.below 0) r := ih h
    rw [holds, holds, hc]
  | group f c ih =>
    rw [unjudged] at h
    rw [holds, holds]
    cases hf : r.field? f with
    | none =>
      rw [hf] at h
      exact h [] List.mem_cons_self
    | some x =>
      rw [hf, List.forall_mem_map] at h
      exact ih h
  | leaf c hc =>
    rw [unjudged_of_isLeaf hc] at h
    rw [holds_of_isLeaf hc, holds_of_isLeaf hc]
    cases hv : c.verdict? engine r with
    | some v => rfl
    | none =>
      rw [if_pos hv] at h
      exact h [] List.mem_cons_self

/-- A verdict is what two-valued evaluation gives whatever the answers to the questions that cannot
be judged, and if there is no such question, there is a verdict. -/
theorem verdict_of_completions (h : c.compile engine = .ok j) (r : Value) :
    (∀ v, j r = some v → ∀ a, c.holds engine a r = v) ∧
    (c.unjudged engine r = [] → ∀ a, j r = some (c.holds engine a r)) ∧
    ∀ a b, (∀ p ∈ c.unjudged engine r, a p = b p) → c.holds engine a r = c.holds engine b r := by
  refine ⟨fun v hv a => settles_holds h a r v hv, fun hn a => ?_, fun a b => holds_congr⟩
  obtain ⟨v, hv⟩ := Option.isSome_iff_exists.1 (isSome_of_unjudged_eq_nil h hn)
  rw [hv, settles_holds h a r v hv]

/-- A disjunction that is settled before two questions that cannot be judged. -/
theorem verdict_of_completions_disjunction :
    let c : Condition := .any [.not (.compare "a" .eq .null), .all [.compare "a" .gt (.bool true),
      .group "b" (.compare "c" .eq .null)]]
    let r : Value := .object [("a", .string "x")]
    let s : Value := .object [("a", .bool true), ("b", .object [("c", .null)])]
    c.unjudged Regex.dialect r = [[1, 0], [1, 1]] ∧ (∀ a, c.holds Regex.dialect a r = true) ∧
      c.unjudged Regex.dialect s = [] ∧ ∀ a, some true = some (c.holds Regex.dialect a s) := by
  intro c r s
  have hr := verdict_of_completions (show c.compile Regex.dialect = .ok _ from rfl) r
  have hs := verdict_of_completions (show c.compile Regex.dialect = .ok _ from rfl) s
  exact ⟨by decide, hr.1 true rfl, by decide, hs.2.1 (by decide)⟩

end NestedData.Condition
