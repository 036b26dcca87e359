import NestedData.Proofs.Filter.Fingerprint
import NestedData.Filter.Judgement
/-!
Membership in a list of literals, as it is judged by fingerprints and as the disjunction of
equalities that it stands for. The two agree on a field whose fingerprint is found just when the
field equals a literal. For separable values they differ in one way only: an integer beside an equal
binary number of nine quadrillion or more is not found.
-/

namespace NestedData.Judgement

def equalsAny (field : String) (literals : List Value) : Judgement := fun r =>
  match literals with
  | [] => some false
  | _ => (r.field? field).map fun x => literals.any fun v => x.equal v

theorem exists_unseen_iff {seen : List (List Char)} {vs : List Value} {p : List Char} :
    (∃ v ∈ unseen seen vs, v.fingerprint = p) ↔ p ∉ seen ∧ ∃ v ∈ vs, v.fingerprint = p := by
  induction vs generalizing seen with
  | nil => simp [unseen]
  | cons v vs ih =>
    rw [unseen]
    split
    · rename_i hs
      rw [ih]
      refine and_congr_right fun hp => ?_
      have hv : v.fingerprint ≠ p := fun h => hp (h ▸ hs)
      simp [hv]
    · rename_i hs
      rw [List.exists_mem_cons_iff, List.exists_mem_cons_iff, ih, List.mem_cons, not_or]
      by_cases hv : v.fingerprint = p
      · rw [← hv]
        simp [hs]
      · simp [hv, Ne.symm hv]

theorem unseen_eq_nil_iff {seen : List (List Char)} {vs : List Value} :
    unseen seen vs = [] ↔ ∀ v ∈ vs, v.fingerprint ∈ seen := by
  constructor
  · intro h v hv
    by_contra hs
    obtain ⟨u, hu, -⟩ := exists_unseen_iff.2 ⟨hs, v, hv, rfl⟩
    rw [h] at hu
    cases hu
  · intro h
    rw [List.eq_nil_iff_forall_not_mem]
    intro u hu
    obtain ⟨hs, v, hv, he⟩ := exists_unseen_iff.1 ⟨u, hu, rfl⟩
    exact hs (he ▸ h v hv)

/-- Whether a value is found among literals: by its fingerprint, or if all literals share one, by
its equality with the first. -/
def found : List Value → Value → Bool
  | [], _ => false
  | v :: vs, x =>
    if ∀ u ∈ vs, u.fingerprint = v.fingerprint then x.equal v
    else (v :: vs).any (·.fingerprint = x.fingerprint)

theorem any_fingerprint_unseen (vs : List Value) (p : List Char) :
    (unseen [] vs).any (·.fingerprint = p) = vs.any (·.fingerprint = p) := by
  have h : (∃ v ∈ unseen [] vs, v.fingerprint = p) ↔ p ∉ [] ∧ ∃ v ∈ vs, v.fingerprint = p :=
    exists_unseen_iff
  rw [Bool.eq_iff_iff]
  simpa using h

theorem oneOf_cons (field : String) (v : Value) (vs : List Value) :
    oneOf field (v :: vs) = onField field fun x => some (found (v :: vs) x) := by
  have hunseen : unseen [] (v :: vs) = v :: unseen [v.fingerprint] vs := by simp [unseen]
  by_cases hall : ∀ u ∈ vs, u.fingerprint = v.fingerprint
  · have hnil : unseen [v.fingerprint] vs = [] :=
      unseen_eq_nil_iff.2 fun u hu => List.mem_singleton.2 (hall u hu)
    have hfound : found (v :: vs) = fun x => x.equal v := funext fun x => if_pos hall
    rw [oneOf, hunseen, hnil, hfound]
    rfl
  · have hcons : unseen [v.fingerprint] vs ≠ [] := fun h => hall fun u hu =>
      List.mem_singleton.1 (unseen_eq_nil_iff.1 h u hu)
    obtain ⟨w, ws, hw⟩ := List.exists_cons_of_ne_nil hcons
    have hfound : found (v :: vs) = fun x => (v :: vs).any (·.fingerprint = x.fingerprint) :=
      funext fun x => if_neg hall
    have hany : (fun x : Value => some ((v :: w :: ws).any (·.fingerprint = x.fingerprint))) =
        fun x => some ((v :: vs).any (·.fingerprint = x.fingerprint)) := by
      rw [← hw, ← hunseen]
      exact funext fun x => congrArg some (any_fingerprint_unseen _ _)
    rw [oneOf, hunseen, hw, hfound, ← hany]

theorem oneOf_eq_equalsAny_iff_found (field : String) (literals : List Value) (r : Value) :
    oneOf field literals r = equalsAny field literals r ↔
      ∀ x, r.field? field = some x → found literals x = literals.any fun v => x.equal v := by
  cases literals with
  | nil => exact iff_of_true rfl fun _ _ => rfl
  | cons v vs =>
    rw [oneOf_cons]
    unfold onField equalsAny
    cases r.field? field with
    | none => simp
    | some x => simp only [Option.bind_some, Option.map_some, Option.some.injEq, forall_eq']

/-- Among separable literals a separable value is found, when it equals one, if all of them share
one print or one of them has its print. -/
theorem found_eq_any_iff {literals : List Value} {x : Value}
    (hl : ∀ v ∈ literals, v.WellFormed ∧ v.Separable) (hx : x.WellFormed ∧ x.Separable) :
    (found literals x = literals.any fun v => x.equal v) ↔
      ((∃ v ∈ literals, x.equal v = true) →
        (∀ u ∈ literals, ∀ v ∈ literals, u.printAlike v = true) ∨
          ∃ v ∈ literals, x.printAlike v = true) := by
  have hprint {u : Value} (hu : u ∈ literals) :
      u.fingerprint = x.fingerprint ↔ x.printAlike u = true := by
    rw [eq_comm, Value.fingerprint_eq_iff hx (hl u hu)]
  have hequal {u w : Value} (hu : u ∈ literals) (hw : w ∈ literals) :
      u.fingerprint = w.fingerprint ↔ u.printAlike w = true :=
    Value.fingerprint_eq_iff (hl u hu) (hl w hw)
  rw [Bool.eq_iff_iff, List.any_eq_true]
  cases literals with
  | nil => simp [found]
  | cons v vs =>
    have hv : v ∈ v :: vs := List.mem_cons_self
    by_cases hall : ∀ u ∈ vs, u.fingerprint = v.fingerprint
    · -- One comparison is enough: what equals a literal of this print equals the first.
      have hfirst : ∀ u ∈ v :: vs, u.fingerprint = v.fingerprint :=
        List.forall_mem_cons.2 ⟨rfl, hall⟩
      rw [show found (v :: vs) x = x.equal v from if_pos hall]
      refine iff_of_true ⟨fun h => ⟨v, hv, h⟩, ?_⟩ fun _ => Or.inl fun u hu w hw => ?_
      · rintro ⟨u, hu, h⟩
        exact Value.equal_trans_printAlike h ((hequal hu hv).1 (hfirst u hu))
      · exact (hequal hu hw).1 ((hfirst u hu).trans (hfirst w hw).symm)
    · -- A print that is found is that of an equal literal, so only misses are possible.
      have hapart : ¬ ∀ u ∈ v :: vs, ∀ w ∈ v :: vs, u.printAlike w = true := fun h =>
        hall fun u hu => (hequal (List.mem_cons_of_mem _ hu) hv).2
          (h u (List.mem_cons_of_mem _ hu) v hv)
      have hfound : found (v :: vs) x = true ↔ ∃ u ∈ v :: vs, x.printAlike u = true := by
        rw [show found (v :: vs) x = (v :: vs).any (·.fingerprint = x.fingerprint) from if_neg hall,
          List.any_eq_true]
        exact exists_congr fun u => and_congr_right fun hu => by
          rw [decide_eq_true_eq, hprint hu]
      rw [hfound, or_iff_right hapart]
      refine ⟨fun h => h.2, fun h => ⟨?_, h⟩⟩
      rintro ⟨u, hu, hxu⟩
      exact ⟨u, hu, Value.equal_of_printAlike hxu⟩

theorem oneOf_of_field? {r x : Value} {field : String} (hr : r.field? field = some x)
    (literals : List Value) : oneOf field literals r = some (found literals x) := by
  cases literals with
  | nil => rfl
  | cons v vs => rw [oneOf_cons, onField, hr, Option.bind_some]

/-- Whether a literal lets a value be found among others: by its print, or, where it shares that
with all the others, by being equal. -/
def FoundBy (x literal : Value) (others : List Value) : Prop :=
  x.printAlike literal = true ∨
    x.equal literal = true ∧ ∀ u ∈ others, u.printAlike literal = true

theorem found_iff {literals : List Value} {x : Value}
    (hl : ∀ v ∈ literals, v.WellFormed ∧ v.Separable) (hx : x.WellFormed ∧ x.Separable) :
    found literals x = true ↔ (∃ v ∈ literals, x.equal v = true) ∧
      ((∀ u ∈ literals, ∀ v ∈ literals, u.printAlike v = true) ∨
        ∃ v ∈ literals, x.printAlike v = true) := by
  have hany := found_eq_any_iff hl hx
  by_cases hequal : ∃ v ∈ literals, x.equal v = true
  · rw [List.any_eq_true.2 hequal] at hany
    simpa [hequal] using hany
  · have hmiss : found literals x = literals.any fun v => x.equal v :=
      hany.2 fun h => absurd h hequal
    rw [hmiss, List.any_eq_true]
    simp [hequal]

theorem found_insert_iff {before after : List Value} {literal x : Value}
    (h : ∀ u ∈ x :: literal :: (before ++ after), u.WellFormed ∧ u.Separable) :
    found (before ++ literal :: after) x = true ↔
      (∃ u ∈ before ++ after, x.printAlike u = true) ∨ FoundBy x literal (before ++ after) := by
  rw [List.forall_mem_cons, List.forall_mem_cons] at h
  obtain ⟨hx, hv, hothers⟩ := h
  have hmem {u : Value} : u ∈ before ++ literal :: after ↔ u = literal ∨ u ∈ before ++ after :=
    List.perm_middle.mem_iff.trans List.mem_cons
  have hl : ∀ u ∈ before ++ literal :: after, u.WellFormed ∧ u.Separable := by
    intro u hu
    rcases hmem.1 hu with rfl | hu
    · exact hv
    · exact hothers u hu
  rw [found_iff hl hx]
  constructor
  · rintro ⟨⟨u, hu, hxu⟩, halike | ⟨w, hw, hxw⟩⟩
    · have hself := hmem.2 (Or.inl rfl)
      refine Or.inr (Or.inr ⟨Value.equal_trans_printAlike hxu (halike u hu _ hself), ?_⟩)
      intro w hw
      exact halike w (hmem.2 (Or.inr hw)) _ hself
    · rcases hmem.1 hw with rfl | hw
      · exact Or.inr (Or.inl hxw)
      · exact Or.inl ⟨w, hw, hxw⟩
  · rintro (⟨w, hw, hxw⟩ | hxv | ⟨hxv, halike⟩)
    · have hw := hmem.2 (Or.inr hw)
      exact ⟨⟨w, hw, Value.equal_of_printAlike hxw⟩, Or.inr ⟨w, hw, hxw⟩⟩
    · have hself := hmem.2 (Or.inl rfl)
      exact ⟨⟨_, hself, Value.equal_of_printAlike hxv⟩, Or.inr ⟨_, hself, hxv⟩⟩
    · -- All of them have the print of the literal, so any two are alike.
      have hprint : ∀ u ∈ before ++ literal :: after, u.printAlike literal = true := by
        intro u hu
        rcases hmem.1 hu with rfl | hu
        · exact (Value.fingerprint_eq_iff hv hv).1 rfl
        · exact halike u hu
      refine ⟨⟨_, hmem.2 (Or.inl rfl), hxv⟩, Or.inl fun u hu w hw => ?_⟩
      have hback : literal.printAlike w = true :=
        Value.printAlike_symm (hl w hw) hv (hprint w hw)
      exact Value.printAlike_trans (hl u hu) hv (hl w hw) (hprint u hu) hback

theorem FoundBy.of_printAlike {u v x : Value} {others : List Value} (h : FoundBy x u others)
    (huv : u.printAlike v = true)
    (hsep : ∀ w ∈ x :: u :: v :: others, w.WellFormed ∧ w.Separable) : FoundBy x v others := by
  simp only [List.forall_mem_cons] at hsep
  obtain ⟨hx, hu, hv, hothers⟩ := hsep
  rcases h with h | ⟨hequal, hall⟩
  · exact Or.inl (Value.printAlike_trans hx hu hv h huv)
  · refine Or.inr ⟨Value.equal_trans_printAlike hequal huv, fun w hw => ?_⟩
    exact Value.printAlike_trans (hothers w hw) hu hv (hall w hw) huv

/-- When it makes no difference which of two literals a list holds. -/
theorem oneOf_exchange_iff {field : String} {r x u v : Value} {before after : List Value}
    (hr : r.field? field = some x)
    (hsep : ∀ w ∈ x :: u :: v :: (before ++ after), w.WellFormed ∧ w.Separable) :
    oneOf field (before ++ u :: after) r = oneOf field (before ++ v :: after) r ↔
      (∃ w ∈ before ++ after, x.printAlike w = true) ∨
        (FoundBy x u (before ++ after) ↔ FoundBy x v (before ++ after)) := by
  have hsep' := hsep
  simp only [List.forall_mem_cons] at hsep'
  obtain ⟨hx, hu, hv, hothers⟩ := hsep'
  have hfound {w : Value} (hw : w.WellFormed ∧ w.Separable) := found_insert_iff
    (List.forall_mem_cons.2 ⟨hx, List.forall_mem_cons.2 ⟨hw, hothers⟩⟩)
  rw [oneOf_of_field? hr, oneOf_of_field? hr, Option.some.injEq, Bool.eq_iff_iff, hfound hu,
    hfound hv]
  by_cases hprint : ∃ w ∈ before ++ after, x.printAlike w = true
  · simp only [hprint, true_or]
  · simp only [hprint, false_or]

theorem oneOf_exchange_of_printAlike {field : String} {r x u v : Value} {before after : List Value}
    (hr : r.field? field = some x) (huv : u.printAlike v = true)
    (hsep : ∀ w ∈ x :: u :: v :: (before ++ after), w.WellFormed ∧ w.Separable) :
    oneOf field (before ++ u :: after) r = oneOf field (before ++ v :: after) r := by
  have hsep' := hsep
  simp only [List.forall_mem_cons] at hsep'
  obtain ⟨hx, hu, hv, hothers⟩ := hsep'
  have hvu : v.printAlike u = true := Value.printAlike_symm hu hv huv
  refine (oneOf_exchange_iff hr hsep).2 (Or.inr ⟨fun h => h.of_printAlike huv hsep, fun h => ?_⟩)
  refine h.of_printAlike hvu ?_
  simp only [List.forall_mem_cons]
  exact ⟨hx, hv, hu, hothers⟩

/-- When a list of literals is judged as the disjunction of the equalities that it stands for. -/
theorem oneOf_eq_equalsAny_iff (engine : Regex.Engine) (field : String) (literals : List Value) :
    ∃ j, (Condition.oneOf field literals).compile engine = .ok j ∧ ∀ r,
      (j r = equalsAny field literals r ↔ ∀ x, r.field? field = some x →
        found literals x = literals.any fun v => x.equal v) ∧
      ∀ x, r.field? field = some x → (∀ v ∈ x :: literals, v.WellFormed ∧ v.Separable) →
        (j r = equalsAny field literals r ↔
          ((∃ v ∈ literals, x.equal v = true) →
            (∀ u ∈ literals, ∀ v ∈ literals, u.printAlike v = true) ∨
              ∃ v ∈ literals, x.printAlike v = true)) := by
  refine ⟨oneOf field literals, by rw [Condition.compile], fun r => ?_⟩
  have hjudged := oneOf_eq_equalsAny_iff_found field literals r
  refine ⟨hjudged, fun x hx hsep => ?_⟩
  rw [List.forall_mem_cons] at hsep
  rw [hjudged, ← found_eq_any_iff hsep.2 hsep.1, hx]
  simp only [Option.some.injEq, forall_eq']

/-- A list is found in place of one that has its fingerprint, and a large binary number is not found
though it equals an integer. -/
theorem oneOf_ne_equalsAny :
    let lists : List Value := [.array [.string "a", .string "b"], .number (.integer 1)]
    let numbers : List Value :=
      [.number (.integer 9000000000000000), .number (.integer 1)]
    let r : Value := .object [("x", .array [.string "a,s:b"])]
    let s : Value := .object [("x", .number (.binary ⟨false, 0x433FF973CAFA8000, by decide⟩))]
    oneOf "x" lists r = some true ∧ equalsAny "x" lists r = some false ∧
      oneOf "x" numbers s = some false ∧ equalsAny "x" numbers s = some true := by
  decide +kernel

end NestedData.Judgement
