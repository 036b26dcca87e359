import NestedData.Proofs.Filter.Placing
import NestedData.Proofs.Filter.Reading
import NestedData.Proofs.Text.Cutting
import NestedData.Regex.Dialect
/-!
A document as the conjunction of its entries. Entries whose paths are apart may share nested
documents; still the document is read just when each entry by itself is, and it selects the records
that each entry selects, whatever the order of the entries.
-/

namespace NestedData

theorem Judgement.all_eq_some_true_iff {js : List Judgement} {r : Value} :
    all js r = some true ↔ ∀ j ∈ js, j r = some true := by
  induction js with
  | nil => simp [all, constant]
  | cons j js ih =>
    rw [List.forall_mem_cons, ← ih, all, and]
    cases hj : j r with
    | none => simp
    | some v => cases v <;> simp

namespace Filter

open NestedData.Tree (Apart)

variable {engine : Regex.Engine} {d es : Document} {k : String} {v : Value} {p q : List String}
  {probe : Option Value}

/-- The entry is read, and holds of the record if one is given. -/
def Admits (engine : Regex.Engine) (probe : Option Value) (e : String × Value) : Prop :=
  ∃ c j, entry e.1 e.2 = .ok c ∧ c.compile engine = .ok j ∧ ∀ r ∈ probe, j r = some true

theorem admits_all_iff : (∀ e ∈ es, Admits engine probe e) ↔
    ∃ cs js, entries es = .ok cs ∧ Condition.Compiled engine cs js ∧
      ∀ j ∈ js, ∀ r ∈ probe, j r = some true := by
  simp only [entries_eq_ok_iff]
  induction es with
  | nil => exact iff_of_true (by simp) ⟨[], [], .nil, .nil, by simp⟩
  | cons e es ih =>
    rw [List.forall_mem_cons, ih]
    constructor
    · rintro ⟨⟨c, j, hc, hj, hr⟩, cs, js, hcs, hjs, hrs⟩
      exact ⟨c :: cs, j :: js, .cons hc hcs, .cons hj hjs, List.forall_mem_cons.2 ⟨hr, hrs⟩⟩
    · rintro ⟨_, _, hcs, hjs, hrs⟩
      cases hcs with
      | cons hc hcs =>
        cases hjs with
        | cons hj hjs =>
          rw [List.forall_mem_cons] at hrs
          exact ⟨⟨_, _, hc, hj, hrs.1⟩, _, _, hcs, hjs, hrs.2⟩

/-- A document is read, and holds of a record, if all entries of its expansion are and do. -/
theorem document_admits_iff (engine : Regex.Engine) (probe : Option Value) :
    (∃ c j, document d = .ok c ∧ c.compile engine = .ok j ∧ ∀ r ∈ probe, j r = some true) ↔
      ∀ e ∈ expand d, Admits engine probe e := by
  rw [admits_all_iff, document_eq]
  constructor
  · rintro ⟨c, j, hc, hj, hr⟩
    obtain ⟨cs, hcs, rfl⟩ := map_eq_ok_iff.1 hc
    obtain ⟨js, hjs, rfl⟩ := Condition.compile_all.1 hj
    exact ⟨cs, js, hcs, hjs, fun j hj r hp => Judgement.all_eq_some_true_iff.1 (hr r hp) j hj⟩
  · rintro ⟨cs, js, hcs, hjs, hr⟩
    exact ⟨.all cs, .all js, map_eq_ok_iff.2 ⟨cs, hcs, rfl⟩, Condition.compile_all.2 ⟨js, hjs, rfl⟩,
      fun r hp => Judgement.all_eq_some_true_iff.2 fun j hj => hr j hj r hp⟩

theorem admits_object_iff (hk : isOperatorKey k = false) (hd : ExpandedDocument d)
    (ho : hasOperator d = false) (hne : d ≠ []) : Admits engine probe (k, .object d) ↔
      (∀ r ∈ probe, (r.field? k).isSome) ∧
        ∀ e ∈ d, Admits engine (probe.bind fun r => r.field? k) e := by
  have hread := document_admits_iff (d := d) engine (probe.bind fun r => r.field? k)
  rw [hd.expand_eq] at hread
  rw [← hread, Admits, entry_object hk ho hne]
  constructor
  · rintro ⟨c, j, hc, hj, hr⟩
    obtain ⟨b, hb, rfl⟩ := map_eq_ok_iff.1 hc
    obtain ⟨i, hi, rfl⟩ := Condition.compile_group.1 hj
    constructor
    · intro r hp
      obtain ⟨x, hx, -⟩ := Option.bind_eq_some_iff.1 (hr r hp)
      exact Option.isSome_of_eq_some hx
    · refine ⟨b, i, hb, hi, fun x hx => ?_⟩
      obtain ⟨r, hp, hrx⟩ := Option.bind_eq_some_iff.1 hx
      have hr' := hr r hp
      rwa [Judgement.onField, hrx] at hr'
  · rintro ⟨hsome, b, i, hb, hi, hx⟩
    refine ⟨.group k b, .onField k i, map_eq_ok_iff.2 ⟨b, hb, rfl⟩,
      Condition.compile_group.2 ⟨i, hi, rfl⟩, fun r hp => ?_⟩
    obtain ⟨x, hrx⟩ := Option.isSome_iff_exists.1 (hsome r hp)
    rw [Judgement.onField, hrx]
    exact hx x (Option.bind_eq_some_iff.2 ⟨r, hp, hrx⟩)

/-- What is placed at a free path asks for itself, beside what the document asks for. -/
theorem placeAt_admits_iff (hp : Free p d) (hd : ExpandedDocument d) (hs : ∀ s ∈ p, Single s)
    (hpass : Passable p) (hv : Expanded v) (probe : Option Value) :
    (∀ e ∈ placeAt p v d, Admits engine probe e) ↔
      (∀ e ∈ d, Admits engine probe e) ∧ ∀ e ∈ placeAt p v [], Admits engine probe e := by
  induction hp generalizing probe with
  | @absent k rest d h => rw [placeAt_of_absent h, List.forall_mem_append]
  | @inside k rest d inner h hne ho hf ih =>
    cases rest with
    | nil => cases hf
    | cons l rest =>
      have hinner : ExpandedDocument inner := by
        have hw := hd.within (k := k)
        rw [within_of_get? h] at hw
        exact hw ho
      have hplain := hpass.plain
      rw [List.forall_mem_cons] at hs
      -- The common field is asked for what both documents below it ask for.
      have hgroup {e : Document} (he : ExpandedDocument e) (heo : hasOperator e = false) :
          Admits engine probe (k, .object (placeAt (l :: rest) v e)) ↔
            (∀ r ∈ probe, (r.field? k).isSome) ∧
              ∀ x ∈ placeAt (l :: rest) v e, Admits engine (probe.bind fun r => r.field? k) x := by
        refine admits_object_iff hplain.1 (he.placeAt hs.2 hv) ?_ (placeAt_ne_nil l rest v e)
        rw [hasOperator_placeAt, hplain.2, heo]
        rfl
      have hbefore : (∀ e ∈ d, Admits engine probe e) ↔
          Admits engine probe (k, .object inner) ∧ ∀ e ∈ d, e.1 ≠ k → Admits engine probe e := by
        rw [← Dict.forall_mem_insert hd.distinct, Dict.insert_of_get? h]
      rw [placeAt_cons_cons, placeAt_cons_cons, within_of_get? h, within_of_absent rfl,
        Dict.forall_mem_insert hd.distinct, hbefore, Dict.insert, List.forall_mem_singleton,
        hgroup hinner ho, hgroup expandedDocument_nil rfl, ih hinner hs.2 hpass.tail,
        admits_object_iff hplain.1 hinner ho hne]
      constructor
      · rintro ⟨⟨hr, hi, hn⟩, hrest⟩
        exact ⟨⟨⟨hr, hi⟩, hrest⟩, hr, hn⟩
      · rintro ⟨⟨⟨hr, hi⟩, hrest⟩, -, hn⟩
        exact ⟨⟨hr, hi, hn⟩, hrest⟩

theorem expandInto_admits_iff (hd : ExpandedDocument d) (hfree : ∀ e ∈ es, Free (keyPath e.1) d)
    (hpass : ∀ e ∈ es, Passable (keyPath e.1))
    (hapart : es.Pairwise fun e f => Apart (keyPath e.1) (keyPath f.1))
    (engine : Regex.Engine) (probe : Option Value) :
    (∀ e ∈ expandInto d es, Admits engine probe e) ↔
      (∀ e ∈ d, Admits engine probe e) ∧ ∀ e ∈ es, ∀ x ∈ expand [e], Admits engine probe x := by
  induction es generalizing d with
  | nil => simp [expandInto]
  | cons e es ih =>
    obtain ⟨k, v⟩ := e
    rw [List.forall_mem_cons] at hfree hpass
    rw [List.pairwise_cons] at hapart
    have hv := expanded_expandValue v
    have hs : ∀ s ∈ keyPath k, Single s := fun s => single_of_mem_keyPath
    have halone : expand [(k, v)] = placeAt (keyPath k) (expandValue v) [] := by
      rw [expand, expandInto, expandInto, place_eq_placeAt]
    have hfree' : ∀ e ∈ es, Free (keyPath e.1) (placeAt (keyPath k) (expandValue v) d) := by
      intro e he
      exact (hfree.2 e he).placeAt (hapart.1 e he) hpass.1
    rw [expandInto, place_eq_placeAt, ih (hd.placeAt hs hv) hfree' hpass.2 hapart.2,
      placeAt_admits_iff hfree.1 hd hs hpass.1 hv, List.forall_mem_cons, halone, and_assoc]

/-- A key of which no segment between its dots starts like an operator. -/
def Plain (key : String) : Prop :=
  ∀ segment ∈ Text.cutAt ['.'] key.toList, segment.head? ≠ some '$'

instance (key : String) : Decidable (Plain key) :=
  inferInstanceAs (Decidable (∀ segment ∈ Text.cutAt ['.'] key.toList, _))

def IsLogical (key : String) : Prop := key = "$and" ∨ key = "$or" ∨ key = "$not"

instance (key : String) : Decidable (IsLogical key) :=
  inferInstanceAs (Decidable (_ ∨ _ ∨ _))

theorem exists_mem_cutAt_head? {c d : Char} (h : d ≠ c) (cs : List Char) :
    ∃ segment ∈ Text.cutAt [d] (c :: cs), segment.head? = some c := by
  rw [Text.cutAt_cons, if_neg h]
  cases Text.cutAt [d] cs with
  | nil => exact ⟨[c], List.mem_cons_self, rfl⟩
  | cons piece rest => exact ⟨c :: piece, List.mem_cons_self, rfl⟩

theorem Plain.key_not_operator {key : String} (h : Plain key) : isOperatorKey key = false := by
  rw [isOperatorKey, decide_eq_false_iff_not]
  intro hhead
  obtain ⟨cs, hcs⟩ := List.head?_eq_some_iff.1 hhead
  obtain ⟨segment, hm, hsegment⟩ := exists_mem_cutAt_head? (show '.' ≠ '$' by decide) cs
  rw [← hcs] at hm
  exact h segment hm hsegment

theorem Plain.not_operator {key s : String} (h : Plain key) (hs : s ∈ keyPath key) :
    isOperatorKey s = false := by
  unfold keyPath at hs
  by_cases hk : Single key
  · rw [if_pos hk, List.mem_singleton] at hs
    subst hs
    exact h.key_not_operator
  · rw [if_neg hk] at hs
    obtain ⟨segment, hm, rfl⟩ := List.mem_map.1 hs
    rw [isOperatorKey, decide_eq_false_iff_not, String.toList_ofList]
    exact h segment (List.mem_filter.1 hm).1

theorem IsLogical.isOperatorKey {key : String} (h : IsLogical key) : isOperatorKey key = true := by
  rcases h with rfl | rfl | rfl <;> decide

theorem IsLogical.keyPath_eq {key : String} (h : IsLogical key) : keyPath key = [key] := by
  rcases h with rfl | rfl | rfl <;> decide

/-- A document of entries that do not overlap: its keys combine specifications or are plain, and the
path of a plain key does not continue that of another. -/
structure Disjoint (d : Document) : Prop where
  distinct : Dict.Distinct d
  keys : ∀ e ∈ d, IsLogical e.1 ∨ Plain e.1
  paths : ∀ e ∈ d, ∀ f ∈ d, e.1 ≠ f.1 → Plain e.1 → Plain f.1 → ¬ keyPath e.1 <+: keyPath f.1

theorem Disjoint.passable (h : Disjoint d) : ∀ e ∈ d, Passable (keyPath e.1) := by
  intro e he hlong s hs
  rcases h.keys e he with hl | hp
  · rw [hl.keyPath_eq] at hlong
    exact absurd hlong (Nat.lt_irrefl 1)
  · exact hp.not_operator hs

theorem apart_of_isLogical {k l : String} (hk : IsLogical k) (hl : IsLogical l ∨ Plain l)
    (hkl : k ≠ l) : Apart (keyPath k) (keyPath l) := by
  rw [hk.keyPath_eq]
  rcases hl with hl | hl
  · rw [hl.keyPath_eq]
    exact Tree.apart_cons_iff.2 (Or.inl hkl)
  · obtain ⟨s, rest, hs⟩ := List.exists_cons_of_ne_nil (keyPath_ne_nil l)
    rw [hs]
    refine Tree.apart_cons_iff.2 (Or.inl ?_)
    rintro rfl
    have hplain : isOperatorKey k = false := hl.not_operator (hs ▸ List.mem_cons_self)
    rw [hk.isOperatorKey] at hplain
    cases hplain

theorem Disjoint.apart (h : Disjoint d) {e f : String × Value} (he : e ∈ d) (hf : f ∈ d)
    (hef : e.1 ≠ f.1) : Apart (keyPath e.1) (keyPath f.1) := by
  rcases h.keys e he with hle | hpe
  · exact apart_of_isLogical hle (h.keys f hf) hef
  · rcases h.keys f hf with hlf | hpf
    · exact (apart_of_isLogical hlf (h.keys e he) hef.symm).symm
    · exact ⟨h.paths e he f hf hef hpe hpf, h.paths f hf e he hef.symm hpf hpe⟩

theorem Disjoint.pairwise (h : Disjoint d) :
    d.Pairwise fun e f => Apart (keyPath e.1) (keyPath f.1) := by
  have hkeys : d.Pairwise fun e f => e.1 ≠ f.1 := List.pairwise_map.1 h.distinct
  exact hkeys.imp_of_mem fun he hf hef => h.apart he hf hef

theorem Disjoint.perm (h : Disjoint d) (hp : d.Perm es) : Disjoint es where
  distinct := (hp.map Prod.fst).nodup_iff.1 h.distinct
  keys e he := h.keys e (hp.mem_iff.2 he)
  paths e he f hf := h.paths e (hp.mem_iff.2 he) f (hp.mem_iff.2 hf)

theorem Disjoint.document_admits_iff (h : Disjoint d) (probe : Option Value) :
    (∀ e ∈ expand d, Admits engine probe e) ↔
      ∀ e ∈ d, ∀ x ∈ expand [e], Admits engine probe x := by
  have hfree : ∀ e ∈ d, Free (keyPath e.1) [] := fun e _ => free_nil (keyPath_ne_nil e.1)
  have hall := expandInto_admits_iff expandedDocument_nil hfree h.passable h.pairwise engine probe
  exact hall.trans (and_iff_right fun _ he => absurd he List.not_mem_nil)

theorem ofSpec_isOk_iff :
    (∃ f, ofSpec engine (.object d) = .ok f) ↔ ∀ e ∈ expand d, Admits engine none e := by
  rw [← document_admits_iff]
  constructor
  · rintro ⟨f, hf⟩
    obtain ⟨c, j, hc, hj, -⟩ := withOptions_eq_ok_iff.1 hf
    exact ⟨c, j, hc, hj, fun r hr => absurd hr (Option.not_mem_none r)⟩
  · rintro ⟨c, j, hc, hj, -⟩
    exact ⟨_, withOptions_eq_ok_iff.2 ⟨c, j, hc, hj, rfl⟩⟩

theorem ofSpec_selects_iff {r : Value} :
    (∃ f, ofSpec engine (.object d) = .ok f ∧ f.selects r = true) ↔
      ∀ e ∈ expand d, Admits engine (some r) e := by
  rw [← document_admits_iff]
  constructor
  · rintro ⟨f, hf, hr⟩
    obtain ⟨c, j, hc, hj, rfl⟩ := withOptions_eq_ok_iff.1 hf
    refine ⟨c, j, hc, hj, fun s hs => ?_⟩
    cases hs
    exact of_decide_eq_true hr
  · rintro ⟨c, j, hc, hj, hr⟩
    exact ⟨_, withOptions_eq_ok_iff.2 ⟨c, j, hc, hj, rfl⟩, decide_eq_true (hr r rfl)⟩

theorem Disjoint.ofSpec_isOk_iff_entries (h : Disjoint d) :
    (∃ f, ofSpec engine (.object d) = .ok f) ↔
      ∀ e ∈ d, ∃ g, ofSpec engine (.object [e]) = .ok g := by
  rw [ofSpec_isOk_iff, h.document_admits_iff]
  exact forall₂_congr fun e _ => ofSpec_isOk_iff.symm

theorem Disjoint.selects_iff_entries {f : Filter} (h : Disjoint d)
    (hf : ofSpec engine (.object d) = .ok f) (r : Value) :
    f.selects r = true ↔
      ∀ e ∈ d, ∃ g, ofSpec engine (.object [e]) = .ok g ∧ g.selects r = true := by
  have hsome :
      f.selects r = true ↔ ∃ g, ofSpec engine (.object d) = .ok g ∧ g.selects r = true := by
    constructor
    · intro hr
      exact ⟨f, hf, hr⟩
    · rintro ⟨g, hg, hr⟩
      cases hf.symm.trans hg
      exact hr
  rw [hsome, ofSpec_selects_iff, h.document_admits_iff]
  exact forall₂_congr fun e _ => ofSpec_selects_iff.symm

/-- A document of entries that do not overlap is read just when each of its entries is, its filter
selects the records that the filters of all the entries select, and neither depends on the order of
the entries. -/
theorem document_is_conjunction (h : Disjoint d) :
    ((∃ f, ofSpec engine (.object d) = .ok f) ↔ ∀ e ∈ d, ∃ g, ofSpec engine (.object [e]) = .ok g) ∧
    (∀ f, ofSpec engine (.object d) = .ok f → ∀ r,
      f.selects r = true ↔ ∀ e ∈ d, ∃ g, ofSpec engine (.object [e]) = .ok g ∧ g.selects r = true) ∧
    ∀ d', d.Perm d' →
      ((∃ f, ofSpec engine (.object d') = .ok f) ↔ ∃ f, ofSpec engine (.object d) = .ok f) ∧
      ∀ f f', ofSpec engine (.object d) = .ok f → ofSpec engine (.object d') = .ok f' →
        ∀ r, f'.selects r = f.selects r := by
  refine ⟨h.ofSpec_isOk_iff_entries, fun f hf => h.selects_iff_entries hf, ?_⟩
  intro d' hp
  have h' : Disjoint d' := h.perm hp
  constructor
  · rw [h'.ofSpec_isOk_iff_entries, h.ofSpec_isOk_iff_entries]
    exact forall_congr' fun e => imp_congr_left hp.mem_iff.symm
  · intro f f' hf hf' r
    rw [Bool.eq_iff_iff, h'.selects_iff_entries hf', h.selects_iff_entries hf]
    exact forall_congr' fun e => imp_congr_left hp.mem_iff.symm

/-- Two keys below a common field, with a disjunction between them. -/
theorem document_is_conjunction_shared :
    let low : String × Value := ("a.x", .object [("$lt", .bool true)])
    let either : String × Value :=
      ("$or", .array [.object [("b.c", .null)], .object [("d", .null)]])
    let high : String × Value := ("a.y", .bool true)
    Disjoint [low, either, high] ∧ ∃ f, ofSpec Regex.dialect (.object [low, either, high]) = .ok f ∧
      (∀ r, f.selects r = true ↔ ∀ e ∈ [low, either, high],
        ∃ g, ofSpec Regex.dialect (.object [e]) = .ok g ∧ g.selects r = true) ∧
      ∀ f', ofSpec Regex.dialect (.object [high, low, either]) = .ok f' →
        ∀ r, f'.selects r = f.selects r := by
  intro low either high
  have h : Disjoint [low, either, high] := ⟨by decide, by decide, by decide⟩
  obtain ⟨f, hf⟩ : ∃ f, ofSpec Regex.dialect (.object [low, either, high]) = .ok f :=
    ⟨_, by cbv⟩
  have hp : [low, either, high].Perm [high, low, either] :=
    @List.perm_append_comm _ [low, either] [high]
  obtain ⟨-, hr, horder⟩ := document_is_conjunction h
  exact ⟨h, f, hf, hr f hf, fun f' => (horder _ hp).2 f f' hf⟩

end Filter
end NestedData
