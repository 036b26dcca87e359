import NestedData.Proofs.Filter.Grammar
import NestedData.Proofs.Filter.Origins
/-!
The literals that a specification asks with. Each stands somewhere in the specification, key for
key, unless it is an object that dotted keys have made, changed or expanded: when a key has an
operator among its parts, what it places there is taken for a part of a document.
-/

namespace NestedData

namespace Condition

mutual
def literals : Condition → List Value
  | .all parts => literalsOf parts
  | .any parts => literalsOf parts
  | .not c => literals c
  | .group _ c => literals c
  | .compare _ _ v => [v]
  | .between _ low high => low.toList ++ high.toList
  | .oneOf _ vs => vs
  | .text .. => []

def literalsOf : List Condition → List Value
  | [] => []
  | c :: rest => literals c ++ literalsOf rest
end

theorem mem_literalsOf {l : Value} {parts : List Condition} :
    l ∈ literalsOf parts ↔ ∃ c ∈ parts, l ∈ c.literals := by
  induction parts with
  | nil => simp [literalsOf]
  | cons c parts ih => simp [literalsOf, ih]

end Condition

namespace Filter

/-- An object under an operator that, in the expansion of a document, a dotted key leads to or
through. -/
def Composed (spec v : Value) : Prop :=
  v.isObject = true ∧ ∃ d path, ∃ op : Operator, Met spec d ∧ Leads d (path ++ [op.key]) ∧
    (Value.object (expand d)).LeadsTo (path ++ [op.key]) v

def Traced (spec l : Value) : Prop := l.Within spec ∨ Composed spec l

variable {spec l v : Value} {c : Condition} {cs : List Condition} {d : Document}
  {ds : List Document} {op : Operator} {field key : String}

theorem Junction.mem_literals (k : Junction) :
    l ∈ (k.condition cs).literals ↔ ∃ c ∈ cs, l ∈ c.literals := by
  cases k <;> exact Condition.mem_literalsOf

theorem mem_bound (h : l ∈ (bound? v).toList) : l = v := by
  cases v with
  | null => cases h
  | bool | number | string | array | object => exact List.mem_singleton.1 h

theorem mem_listed (h : l ∈ literals v) : l = v ∨ ∃ items, v = .array items ∧ l ∈ items := by
  cases v with
  | array items => exact Or.inr ⟨items, rfl, h⟩
  | null | bool | number | string | object => exact Or.inl (List.mem_singleton.1 h)

theorem mem_literals_leaf (h : leafCondition field op v = .ok c) (hl : l ∈ c.literals) :
    l = v ∨ ∃ items, v = .array items ∧ l ∈ items := by
  have hcompare {k : Comparison} (h : Except.ok (.compare field k v) = (.ok c : SpecResult _)) :
      l = v := by
    obtain rfl := Except.ok.inj h
    exact List.mem_singleton.1 hl
  have htext {t : TextTest} (h : (textOperand op v).map (Condition.text field t) = .ok c) :
      l = v ∨ ∃ items, v = .array items ∧ l ∈ items := by
    obtain ⟨_, -, rfl⟩ := map_eq_ok_iff.1 h
    exact absurd hl List.not_mem_nil
  cases op with
  | eq | gt | lt | gte | lte => exact Or.inl (hcompare h)
  | oneOf =>
    obtain rfl := Except.ok.inj h
    exact mem_listed hl
  | between =>
    apply mem_listed
    rw [leafCondition] at h
    split at h
    · obtain rfl := Except.ok.inj h
      exact absurd hl List.not_mem_nil
    · rename_i low hlow
      obtain rfl := Except.ok.inj h
      rw [Condition.literals, Option.toList_none, List.append_nil] at hl
      rw [hlow, mem_bound hl]
      exact List.mem_cons_self
    · rename_i low high hbounds
      obtain rfl := Except.ok.inj h
      rw [hbounds]
      rcases List.mem_append.1 hl with hl | hl
      · rw [mem_bound hl]
        exact List.mem_cons_self
      · rw [mem_bound hl]
        exact List.mem_cons_of_mem _ List.mem_cons_self
    · cases h
  | startsWith | endsWith | contains | «matches» => exact htext h
  | and | or | not => cases h

/-- The operand of a mapping's only operator is from the specification or composed. -/
theorem Held.traced_operand (h : Held spec (.object [(op.key, v)])) : Traced spec v := by
  have hv : Held spec v := h.member List.mem_cons_self
  cases hobject : v.isObject with
  | false => exact Or.inl (hv.sourced.origin.within hobject)
  | true =>
    rcases h.sourced.origin with hin | ⟨m, hm, hpassed⟩
    · exact Or.inl ((Value.Within.member (.refl v) List.mem_cons_self).trans hin)
    · obtain rfl := Value.object.inj hm
      -- The dotted key goes on with a key of the mapping, which has no other key than the operator.
      obtain ⟨d, path, key, hd, hleads, hkey, hpath⟩ := hpassed (hasOperator_operator op v)
      obtain rfl := List.mem_singleton.1 hkey
      exact Or.inr ⟨hobject, d, path, op, hd, hleads,
        hpath.trans (.step List.mem_cons_self (.here v))⟩

theorem traced_leaf (h : Held spec (.object [(op.key, v)]))
    (hc : leafCondition field op v = .ok c) (hl : l ∈ c.literals) : Traced spec l := by
  rcases mem_literals_leaf hc hl with rfl | ⟨items, rfl, hitem⟩
  · exact h.traced_operand
  · exact Or.inl ((h.member List.mem_cons_self).item hitem)

/-- What is read of the document, or of what it asks a field, asks with traced literals. -/
structure TracedIn (spec : Value) (d : Document) : Prop where
  document : Held spec (.object d) → ∀ c, document d = .ok c → ∀ l ∈ c.literals, Traced spec l
  mapping : Held spec (.object d) → ∀ field c, fieldSpec field d = .ok c →
    ∀ l ∈ c.literals, Traced spec l

theorem traced_junction (k : Junction) {read : Document → SpecResult Condition}
    (h : (ds.mapM read).map k.condition = .ok c)
    (hparts : ∀ d ∈ ds, ∀ c, read d = .ok c → ∀ l ∈ c.literals, Traced spec l) :
    ∀ l ∈ c.literals, Traced spec l := by
  obtain ⟨cs, hcs, rfl⟩ := map_eq_ok_iff.1 h
  intro l hl
  obtain ⟨part, hpart, hl⟩ := k.mem_literals.1 hl
  obtain ⟨d, hd, hread⟩ := exists_of_mem_mapM hcs hpart
  exact hparts d hd part hread l hl

theorem traced_entry (h : Below (TracedIn spec) (weight v)) (hv : Held spec v)
    (hc : entry key v = .ok c) : ∀ l ∈ c.literals, Traced spec l := by
  cases (accepted_entry (agreesBelow _)).1 ⟨c, hc⟩ with
  | @junction k ds hne _ =>
    have hitems : ds.map Value.object ≠ [] := by rwa [ne_eq, List.map_eq_nil_iff]
    rw [entry_junction, if_neg hitems, documents_objects] at hc
    exact traced_junction k hc fun d hd =>
      (h.of_mem hd).document (held_of_within (hv.item (List.mem_map_of_mem hd)))
  | not _ =>
    rw [entry_not] at hc
    obtain ⟨inner, hinner, rfl⟩ := map_eq_ok_iff.1 hc
    exact h.of_object.document hv inner hinner
  | literal hk hv' =>
    rw [entry_literal hk hv'] at hc
    obtain rfl := Except.ok.inj hc
    intro l hl
    obtain rfl := List.mem_singleton.1 hl
    exact Or.inl (hv.sourced.origin.within hv')
  | field hk _ =>
    rw [entry_field hk] at hc
    exact h.of_object.mapping hv key c hc

theorem traced_operator (h : Below (TracedIn spec) (weight v))
    (hm : Held spec (.object [(op.key, v)])) (hc : operator field op v = .ok c) :
    ∀ l ∈ c.literals, Traced spec l := by
  have hv : Held spec v := hm.member List.mem_cons_self
  have hleaf (hop : op.isLogical = false) : ∀ l ∈ c.literals, Traced spec l := by
    rw [operator_leaf hop] at hc
    exact fun l hl => traced_leaf hm hc hl
  cases (accepted_operator (agreesBelow _)).1 ⟨c, hc⟩ with
  | any hop => exact hleaf (op.isLogical_of_takesAny hop)
  | range _ => exact hleaf rfl
  | text hop _ => exact hleaf (op.isLogical_of_takesText hop)
  | @not d _ =>
    rw [operator.eq_def] at hc
    obtain ⟨inner, hinner, rfl⟩ := map_eq_ok_iff.1 hc
    exact h.of_object.mapping hv field inner hinner
  | @junction k ds hne _ =>
    have hitems : ds.map Value.object ≠ [] := by rwa [ne_eq, List.map_eq_nil_iff]
    rw [operator_junction, if_neg hitems, fieldSpecs_eq_mapM] at hc
    exact traced_junction k hc fun d hd =>
      (h.of_mem hd).mapping (held_of_within (hv.item (List.mem_map_of_mem hd))) field

theorem traced_document (h : Below (TracedIn spec) (weightMembers d)) (hd : Held spec (.object d))
    (hc : document d = .ok c) : ∀ l ∈ c.literals, Traced spec l := by
  rw [document_eq, entries_eq_mapM] at hc
  obtain ⟨cs, hcs, rfl⟩ := map_eq_ok_iff.1 hc
  intro l hl
  obtain ⟨part, hpart, hl⟩ := Condition.mem_literalsOf.1 hl
  obtain ⟨e, he, hread⟩ := exists_of_mem_mapM hcs hpart
  refine traced_entry (h.mono ?_) (hd.of_mem_expand he) hread l hl
  exact (weight_lt_members he).le.trans (weightMembers_expand_le d)

theorem traced_mapping (h : Below (TracedIn spec) (weightMembers d)) (hd : Held spec (.object d))
    (hc : fieldSpec field d = .ok c) : ∀ l ∈ c.literals, Traced spec l := by
  cases (accepted_fieldSpec_iff field d).1 ⟨c, hc⟩ with
  | document hne hplain _ =>
    rw [fieldSpec_document field hplain hne] at hc
    obtain ⟨inner, hinner, rfl⟩ := map_eq_ok_iff.1 hc
    have hrecord : ∀ l ∈ inner.literals, Traced spec l := traced_document h hd hinner
    exact hrecord
  | operator _ =>
    rw [fieldSpec_operator] at hc
    exact traced_operator (h.mono (weight_lt_members List.mem_cons_self).le) hd hc

theorem tracedIn_of_below (h : Below (TracedIn spec) (weightMembers d)) : TracedIn spec d where
  document hd _ hc := traced_document h hd hc
  mapping hd _ _ hc := traced_mapping h hd hc

/-- Each literal of what is read is from the specification, or composed by dotted keys. -/
theorem literals_traced (h : Condition.ofSpec spec = .ok c) : ∀ l ∈ c.literals, Traced spec l := by
  cases spec with
  | null =>
    obtain rfl := Except.ok.inj h
    intro l hl
    exact absurd hl List.not_mem_nil
  | object d =>
    have hbelow : Below (TracedIn (.object d)) (weightMembers d) :=
      below_of_step (fun _ => tracedIn_of_below) _
    exact traced_document hbelow (held_of_within (.refl _)) h
  | bool | number | string | array => cases h

/-- The keys of an object of which none is dotted with an operator among its parts. -/
def PlainKeys (v : Value) : Prop :=
  ∀ key ∈ Dict.keys v.members, Single key ∨ ∀ part ∈ keyParts key, isOperatorKey part = false

instance : DecidablePred PlainKeys := fun v =>
  inferInstanceAs (Decidable (∀ key ∈ Dict.keys v.members,
    Single key ∨ ∀ part ∈ keyParts key, isOperatorKey part = false))

theorem plainKeys_insert (hk : Single key) (hv : v.Everywhere PlainKeys)
    (hd : (Value.object d).Everywhere PlainKeys) :
    (Value.object (Dict.insert key v d)).Everywhere PlainKeys := by
  rw [Value.Everywhere.object_iff] at hd ⊢
  refine ⟨?_, ?_⟩
  · intro k hmem
    rcases Dict.mem_keys_insert.1 hmem with rfl | hmem
    · exact Or.inl hk
    · exact hd.1 k hmem
  · intro e he
    rcases Dict.mem_insert he with rfl | he
    · exact hv
    · exact hd.2 e he

theorem plainKeys_nil : (Value.object []).Everywhere PlainKeys :=
  .object (fun _ h => (List.not_mem_nil h).elim) fun _ h => (List.not_mem_nil h).elim

theorem plainKeys_within (hd : (Value.object d).Everywhere PlainKeys) :
    (Value.object (within key d)).Everywhere PlainKeys := by
  unfold within
  cases hg : Dict.get? key d with
  | none => exact plainKeys_nil
  | some w =>
    cases w with
    | object inner => exact (Value.Everywhere.object_iff.1 hd).2 _ (Dict.mem_of_get? hg)
    | null | bool | number | string | array => exact plainKeys_nil

theorem plainKeys_placeAt {path : List String} (hp : ∀ s ∈ path, Single s)
    (hv : v.Everywhere PlainKeys) (hd : (Value.object d).Everywhere PlainKeys) :
    (Value.object (placeAt path v d)).Everywhere PlainKeys := by
  induction path generalizing d with
  | nil => exact hd
  | cons k rest ih =>
    rw [List.forall_mem_cons] at hp
    cases rest with
    | nil => exact plainKeys_insert hp.1 hv hd
    | cons l rest => exact plainKeys_insert hp.1 (ih hp.2 (plainKeys_within hd)) hd

theorem plainKeys_expandInto {es : Document}
    (hes : ∀ e ∈ es, (expandValue e.2).Everywhere PlainKeys)
    (hd : (Value.object d).Everywhere PlainKeys) :
    (Value.object (expandInto d es)).Everywhere PlainKeys := by
  induction es generalizing d with
  | nil => exact hd
  | cons e es ih =>
    rw [List.forall_mem_cons] at hes
    rw [expandInto, place_eq_placeAt]
    exact ih hes.2 (plainKeys_placeAt (fun s hs => single_of_mem_keyPath hs) hes.1 hd)

theorem plainKeys_expandValue (hv : v.Everywhere PlainKeys) :
    (expandValue v).Everywhere PlainKeys := by
  induction v with
  | object ms ih =>
    rw [expandValue]
    split
    · exact hv
    · exact plainKeys_expandInto
        (fun e he => ih e he ((Value.Everywhere.object_iff.1 hv).2 e he)) plainKeys_nil
  | null | bool | number | string | array => exact hv

theorem Met.plainKeys (hspec : spec.Everywhere PlainKeys) (hd : Met spec d) :
    (Value.object d).Everywhere PlainKeys := by
  induction hd with
  | written h => exact hspec.within h
  | expanded _ h ih =>
    refine Value.Everywhere.within ?_ h
    exact plainKeys_expandInto
      (fun e he => plainKeys_expandValue ((Value.Everywhere.object_iff.1 ih).2 e he)) plainKeys_nil

theorem not_composed_of_plainKeys (hspec : spec.Everywhere PlainKeys) : ¬ Composed spec l := by
  rintro ⟨-, d, path, op, hd, ⟨key, hkey, hdotted, hpath⟩, -⟩
  have hop : op.key ∈ keyParts key := hpath.subset (List.mem_append_right path List.mem_cons_self)
  have hplain := ((hd.plainKeys hspec).here key hkey).resolve_left hdotted op.key hop
  rw [op.isOperatorKey_key] at hplain
  cases hplain

/-- Each literal of what is read stands in the specification, key for key, or is composed by dotted
keys; and where no dotted key has an operator among its parts, all stand there. -/
theorem literals_within_or_composed (h : Condition.ofSpec spec = .ok c) :
    (∀ l ∈ c.literals, l.Within spec ∨ Composed spec l) ∧
    (spec.Everywhere PlainKeys → ∀ l ∈ c.literals, l.Within spec) := by
  have htraced : ∀ l ∈ c.literals, Traced spec l := literals_traced h
  refine ⟨htraced, fun hspec l hl => ?_⟩
  exact (htraced l hl).resolve_right (not_composed_of_plainKeys hspec)

/-- An operand that a dotted key leads to, beside a mapping; and the mapping by itself. -/
theorem literals_within_or_composed_dotted :
    let operand : Value := .object [("x", .bool true)]
    let item : Value := .object [("p.q", .null)]
    let listed : Value := .object [("$in", .array [.string "y", item])]
    let d : Document := [("a.$eq", operand), ("b.c", listed)]
    let plain : Value := .object [("b.c", listed)]
    (∃ c, Condition.ofSpec (.object d) = .ok c ∧ c.literals = [operand, .string "y", item] ∧
      Composed (.object d) operand ∧
      ∀ l ∈ c.literals, l.Within (.object d) ∨ Composed (.object d) l) ∧
    plain.Everywhere PlainKeys ∧ ∃ c, Condition.ofSpec plain = .ok c ∧
      c.literals = [.string "y", item] ∧ ∀ l ∈ c.literals, l.Within plain := by
  intro operand item listed d plain
  obtain ⟨c, hc, hliterals⟩ : ∃ c, Condition.ofSpec (.object d) = .ok c ∧
      c.literals = [operand, .string "y", item] := ⟨_, by cbv, by cbv⟩
  obtain ⟨b, hb, hlisted⟩ : ∃ c, Condition.ofSpec plain = .ok c ∧
      c.literals = [.string "y", item] := ⟨_, by cbv, by cbv⟩
  have hexpand :
      expand d = [("a", .object [("$eq", operand)]), ("b", .object [("c", listed)])] := by
    cbv
  have hpath : (Value.object (expand d)).LeadsTo ["a", "$eq"] operand := by
    rw [hexpand]
    exact .step List.mem_cons_self (.step List.mem_cons_self (.here operand))
  have hcomposed : Composed (.object d) operand :=
    ⟨rfl, d, ["a"], .eq, .written (.refl _), ⟨"a.$eq", List.mem_cons_self, by decide⟩, hpath⟩
  have hplain : plain.Everywhere PlainKeys := by decide
  exact ⟨⟨c, hc, hliterals, hcomposed, (literals_within_or_composed hc).1⟩, hplain, b, hb, hlisted,
    (literals_within_or_composed hb).2 hplain⟩

/-- An operand that a dotted key leads to is expanded as a document is. -/
theorem literals_not_verbatim_expanded :
    let spec : Value := .object [("meta.$eq", .object [("a.b", .bool true)])]
    ∃ c, Condition.ofSpec spec = .ok c ∧ ∃ l ∈ c.literals, ¬ l.Within spec := by
  intro spec
  obtain ⟨c, hc, hliterals⟩ : ∃ c, Condition.ofSpec spec = .ok c ∧
      c.literals = [.object [("a", .object [("b", .bool true)])]] := ⟨_, by cbv, by cbv⟩
  refine ⟨c, hc, _, hliterals ▸ List.mem_cons_self, ?_⟩
  simp [spec, Value.within_object_iff, Value.within_scalar_iff (u := .bool true) rfl rfl]

end Filter
end NestedData
