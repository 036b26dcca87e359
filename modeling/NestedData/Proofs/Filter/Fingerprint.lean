import NestedData.Proofs.Filter.Joined
import NestedData.Proofs.Filter.NumberPrint
import NestedData.Proofs.Json.Values
/-!
What fingerprints tell of values. Values that are equal as far as prints of numbers show have the
same fingerprint. The converse needs strings inside lists to hold neither the comma between items
nor the bracket that ends the list.
-/

namespace NestedData.Value

def printAlike : Value → Value → Bool := alike Number.printAlike

mutual
/-- Inside a list that ends with `closing` the fingerprint shows where it ends. -/
def Delimited (closing : Char) : Value → Prop
  | .string s => Unbroken closing s.toList
  | .array items => DelimitedItems items
  | .object members => DelimitedMembers members
  | _ => True

def DelimitedItems : List Value → Prop
  | [] => True
  | v :: rest => Delimited ']' v ∧ DelimitedItems rest

def DelimitedMembers : List (String × Value) → Prop
  | [] => True
  | (_, v) :: rest => Delimited '\x7d' v ∧ DelimitedMembers rest
end

/-- The fingerprint tells the value from others. A string that is in no list may hold anything. -/
def Separable : Value → Prop
  | .array items => DelimitedItems items
  | .object members => DelimitedMembers members
  | _ => True

theorem delimitedItems_iff {xs : List Value} : DelimitedItems xs ↔ ∀ x ∈ xs, x.Delimited ']' := by
  induction xs with
  | nil => simp [DelimitedItems]
  | cons x xs ih => rw [DelimitedItems, ih, List.forall_mem_cons]

theorem delimitedMembers_iff {ms : List (String × Value)} :
    DelimitedMembers ms ↔ ∀ e ∈ ms, e.2.Delimited '\x7d' := by
  induction ms with
  | nil => simp [DelimitedMembers]
  | cons e ms ih => rw [DelimitedMembers, ih, List.forall_mem_cons]

theorem delimited_array {closing : Char} {xs : List Value} :
    (array xs).Delimited closing ↔ ∀ x ∈ xs, x.Delimited ']' := by
  rw [Delimited, delimitedItems_iff]

theorem delimited_object {closing : Char} {ms : List (String × Value)} :
    (object ms).Delimited closing ↔ ∀ e ∈ ms, e.2.Delimited '\x7d' := by
  rw [Delimited, delimitedMembers_iff]

theorem separable_array {xs : List Value} :
    (array xs).Separable ↔ ∀ x ∈ xs, x.Delimited ']' := by
  rw [Separable, delimitedItems_iff]

theorem separable_object {ms : List (String × Value)} :
    (object ms).Separable ↔ ∀ e ∈ ms, e.2.Delimited '\x7d' := by
  rw [Separable, delimitedMembers_iff]

theorem Delimited.separable {closing : Char} {v : Value} (h : v.Delimited closing) :
    v.Separable := by
  cases v with
  | array xs => exact separable_array.2 (delimited_array.1 h)
  | object ms => exact separable_object.2 (delimited_object.1 h)
  | _ => trivial

def mark : Value → Char
  | .null => 'n'
  | .bool b => if b then 't' else 'f'
  | .number _ => 'n'
  | .string _ => 's'
  | .array _ => 'a'
  | .object _ => 'o'

theorem fingerprint_eq_mark_cons (v : Value) : ∃ rest, v.fingerprint = v.mark :: rest := by
  cases v with
  | bool b => cases b <;> exact ⟨_, rfl⟩
  | _ => exact ⟨_, rfl⟩

theorem eq_array_of_mark {v : Value} (h : v.mark = 'a') : ∃ xs, v = .array xs := by
  cases v with
  | array xs => exact ⟨xs, rfl⟩
  | bool b => cases b <;> simp [mark] at h
  | _ => simp [mark] at h

theorem eq_object_of_mark {v : Value} (h : v.mark = 'o') : ∃ ms, v = .object ms := by
  cases v with
  | object ms => exact ⟨ms, rfl⟩
  | bool b => cases b <;> simp [mark] at h
  | _ => simp [mark] at h

theorem mark_eq_of_append {u v : Value} {r r' : List Char}
    (h : u.fingerprint ++ r = v.fingerprint ++ r') : u.mark = v.mark := by
  obtain ⟨s, hs⟩ := fingerprint_eq_mark_cons u
  obtain ⟨t, ht⟩ := fingerprint_eq_mark_cons v
  rw [hs, ht] at h
  exact (List.cons.inj h).1

def Closing (c : Char) : Prop := c = ']' ∨ c = '\x7d'

theorem mark_ne_closing {closing : Char} (hc : Closing closing) (v : Value) : v.mark ≠ closing := by
  have hne : v.mark ≠ ']' ∧ v.mark ≠ '\x7d' := by
    cases v with
    | bool b => cases b <;> simp [mark]
    | _ => simp [mark]
  rcases hc with rfl | rfl
  · exact hne.1
  · exact hne.2

theorem fingerprint_opens {closing : Char} (hc : Closing closing) (v : Value) :
    v.fingerprint ≠ [] ∧ v.fingerprint.head? ≠ some closing := by
  obtain ⟨rest, h⟩ := fingerprint_eq_mark_cons v
  rw [h]
  exact ⟨List.cons_ne_nil _ _, fun hm => mark_ne_closing hc v (Option.some.inj hm)⟩

def memberPrint (e : String × Value) : List Char :=
  Text.quoteShown e.1 ++ '=' :: e.2.fingerprint

theorem itemPrints_eq (xs : List Value) : itemPrints xs = xs.map fingerprint := by
  induction xs with
  | nil => rfl
  | cons x xs ih => rw [itemPrints, ih, List.map_cons]

theorem memberPrints_eq (ms : List (String × Value)) : memberPrints ms = ms.map memberPrint := by
  induction ms with
  | nil => rfl
  | cons e ms ih => rw [memberPrints, ih, List.map_cons, memberPrint]

theorem fingerprint_array (xs : List Value) (r : List Char) : (array xs).fingerprint ++ r =
    'a' :: ':' :: '[' :: (commaJoined (xs.map fingerprint) ++ ']' :: r) := by
  rw [fingerprint, itemPrints_eq]
  simp

theorem fingerprint_object (ms : List (String × Value)) (r : List Char) :
    (object ms).fingerprint ++ r =
      'o' :: ':' :: '\x7b' :: (commaJoined (sorted (ms.map memberPrint)) ++ '\x7d' :: r) := by
  rw [fingerprint, memberPrints_eq, sorted]
  simp

theorem memberPrint_eq_iff {e f : String × Value} :
    memberPrint e = memberPrint f ↔ e.1 = f.1 ∧ e.2.fingerprint = f.2.fingerprint := by
  unfold memberPrint
  constructor
  · intro h
    obtain ⟨hk, hv⟩ := Text.quoteShown_cancel h
    exact ⟨hk, (List.cons.inj hv).2⟩
  · rintro ⟨hk, hv⟩
    rw [hk, hv]

theorem memberPrint_opens {closing : Char} (hc : Closing closing) (e : String × Value) :
    memberPrint e ≠ [] ∧ (memberPrint e).head? ≠ some closing := by
  refine ⟨List.cons_ne_nil _ _, fun h => ?_⟩
  rcases hc with rfl | rfl <;> exact absurd (Option.some.inj h) (by decide)

variable {u v x : Value}

theorem items_cancel {xs ys : List Value} {r r' : List Char}
    (h : ∀ x ∈ xs, ∀ y ∈ ys, ToldApart ']' x.fingerprint y.fingerprint)
    (he : (array xs).fingerprint ++ r = (array ys).fingerprint ++ r') :
    xs.map fingerprint = ys.map fingerprint ∧ r = r' := by
  rw [fingerprint_array, fingerprint_array] at he
  have hjoined : commaJoined (xs.map fingerprint) ++ ']' :: r =
      commaJoined (ys.map fingerprint) ++ ']' :: r' := by simpa using he
  refine commaJoined_cancel (by decide) ?_ ?_ ?_ hjoined
  · simpa using h
  · simpa using fun x (_ : x ∈ xs) => fingerprint_opens (Or.inl rfl) x
  · simpa using fun y (_ : y ∈ ys) => fingerprint_opens (Or.inl rfl) y

theorem members_cancel {ms ns : List (String × Value)} {r r' : List Char}
    (h : ∀ e ∈ ms, ∀ f ∈ ns, ToldApart '\x7d' e.2.fingerprint f.2.fingerprint)
    (he : (object ms).fingerprint ++ r = (object ns).fingerprint ++ r') :
    (ms.map memberPrint).Perm (ns.map memberPrint) ∧ r = r' := by
  rw [fingerprint_object, fingerprint_object] at he
  have hjoined : commaJoined (sorted (ms.map memberPrint)) ++ '\x7d' :: r =
      commaJoined (sorted (ns.map memberPrint)) ++ '\x7d' :: r' := by simpa using he
  have hmem {ms : List (String × Value)} {p : List Char} (hp : p ∈ sorted (ms.map memberPrint)) :
      ∃ e ∈ ms, memberPrint e = p := List.mem_map.1 ((sorted_perm _).mem_iff.1 hp)
  rw [← sorted_eq_sorted_iff]
  refine commaJoined_cancel (by decide) ?_ ?_ ?_ hjoined
  · intro p hp q hq
    obtain ⟨e, hem, rfl⟩ := hmem hp
    obtain ⟨f, hfm, rfl⟩ := hmem hq
    exact toldApart_member ((h e hem f hfm).cons '=')
  · intro p hp
    obtain ⟨e, -, rfl⟩ := hmem hp
    exact memberPrint_opens (Or.inr rfl) e
  · intro q hq
    obtain ⟨f, -, rfl⟩ := hmem hq
    exact memberPrint_opens (Or.inr rfl) f

theorem unbroken_fingerprint {closing : Char} (hc : Closing closing) (hv : v.Delimited closing)
    (ha : v.mark ≠ 'a') (ho : v.mark ≠ 'o') : Unbroken closing v.fingerprint := by
  have hplain {p : List Char} (h : ∀ c ∈ p, c ≠ ',' ∧ c ≠ ']' ∧ c ≠ '\x7d') :
      Unbroken closing p := by
    refine ⟨fun hm => (h _ hm).1 rfl, fun hm => ?_⟩
    rcases hc with rfl | rfl
    · exact (h _ hm).2.1 rfl
    · exact (h _ hm).2.2 rfl
  cases v with
  | null => exact hplain (by simp [fingerprint])
  | bool b => cases b <;> exact hplain (by simp [fingerprint])
  | number n =>
    refine hplain fun c hm => ?_
    simp only [fingerprint, List.mem_cons] at hm
    rcases hm with rfl | rfl | h
    · decide
    · decide
    · have hn := Number.numeric_of_mem_numberPrint h
      refine ⟨?_, ?_, ?_⟩ <;> rintro rfl <;> exact absurd hn (by decide)
  | string s =>
    have hs : Unbroken closing s.toList := hv
    have h := hplain (p := ['s', ':']) (by simp)
    exact ⟨fun hm => (List.mem_append.1 hm).elim h.1 hs.1,
      fun hm => (List.mem_append.1 hm).elim h.2 hs.2⟩
  | array xs => exact absurd rfl ha
  | object ms => exact absurd rfl ho

theorem toldApart_scalar {closing : Char} (hc : Closing closing) (hu : u.Delimited closing)
    (hv : v.Delimited closing) (ha : u.mark ≠ 'a') (ho : u.mark ≠ 'o') :
    ToldApart closing u.fingerprint v.fingerprint := by
  intro r r' hr hr' he
  have hm := mark_eq_of_append he
  exact toldApart_of_unbroken (unbroken_fingerprint hc hu ha ho)
    (unbroken_fingerprint hc hv (hm ▸ ha) (hm ▸ ho)) r r' hr hr' he

theorem toldApart_fingerprint {closing : Char} (hc : Closing closing) (hu : u.Delimited closing)
    (hv : v.Delimited closing) : ToldApart closing u.fingerprint v.fingerprint := by
  -- The items of a list are told apart before its own bracket, whatever `closing` is.
  induction u generalizing closing v with
  | array xs ih =>
    intro r r' _ _ he
    obtain ⟨ys, rfl⟩ := eq_array_of_mark (mark_eq_of_append he).symm
    obtain ⟨-, rfl⟩ := items_cancel (fun x hx y hy => ih x hx (Or.inl rfl)
      (delimited_array.1 hu x hx) (delimited_array.1 hv y hy)) he
    exact ⟨List.append_cancel_right he, rfl⟩
  | object ms ih =>
    intro r r' _ _ he
    obtain ⟨ns, rfl⟩ := eq_object_of_mark (mark_eq_of_append he).symm
    obtain ⟨-, rfl⟩ := members_cancel (fun e hm f hn => ih e hm (Or.inr rfl)
      (delimited_object.1 hu e hm) (delimited_object.1 hv f hn)) he
    exact ⟨List.append_cancel_right he, rfl⟩
  | bool b => exact toldApart_scalar hc hu hv (by cases b <;> decide) (by cases b <;> decide)
  | _ => exact toldApart_scalar hc hu hv (by simp [mark]) (by simp [mark])

theorem printAlike_of_scalar (ha : u.mark ≠ 'a') (ho : u.mark ≠ 'o')
    (h : u.fingerprint = v.fingerprint) : u.printAlike v = true := by
  cases u with
  | null =>
    cases v with
    | null => rfl
    | bool b => cases b <;> simp [fingerprint] at h
    | _ => simp [fingerprint] at h
  | bool b =>
    cases v with
    | bool c => cases b <;> cases c <;> simp [fingerprint, printAlike, alike] at h ⊢
    | _ => cases b <;> simp [fingerprint] at h
  | number n =>
    cases v with
    | number m => exact (Number.numberPrint_eq_iff n m).1 (List.cons.inj (List.cons.inj h).2).2
    | bool b => cases b <;> simp [fingerprint] at h
    | _ => simp [fingerprint] at h
  | string s =>
    cases v with
    | string t =>
      have hst : s = t := String.toList_inj.1 (List.cons.inj (List.cons.inj h).2).2
      simp [printAlike, alike, hst]
    | bool b => cases b <;> simp [fingerprint] at h
    | _ => simp [fingerprint] at h
  | array xs => exact absurd rfl ha
  | object ms => exact absurd rfl ho

theorem map_fingerprint_eq_iff {xs ys : List Value} :
    xs.map fingerprint = ys.map fingerprint ↔ xs.length = ys.length ∧
      ∀ {x y}, (x, y) ∈ xs.zip ys → x.fingerprint = y.fingerprint := by
  rw [← List.forall₂_eq_eq_eq, List.forall₂_map_left_iff, List.forall₂_map_right_iff,
    List.forall₂_iff_zip]

theorem printAlike_of_fingerprint_eq (hu : u.Separable) (hv : v.Separable) (hw : v.WellFormed)
    (h : u.fingerprint = v.fingerprint) : u.printAlike v = true := by
  induction u generalizing v with
  | array xs ih =>
    have he : (array xs).fingerprint ++ [] = v.fingerprint ++ [] := by rw [h]
    obtain ⟨ys, rfl⟩ := eq_array_of_mark (mark_eq_of_append he).symm
    rw [separable_array] at hu hv
    rw [wellFormed_array] at hw
    obtain ⟨hprints, -⟩ := items_cancel (fun x hx y hy =>
      toldApart_fingerprint (Or.inl rfl) (hu x hx) (hv y hy)) he
    rw [map_fingerprint_eq_iff] at hprints
    rw [printAlike, alike_array, List.forall₂_iff_zip]
    refine ⟨hprints.1, fun {x y} hxy => ?_⟩
    obtain ⟨hx, hy⟩ := List.of_mem_zip hxy
    exact ih x hx (hu x hx).separable (hv y hy).separable (hw y hy) (hprints.2 hxy)
  | object ms ih =>
    have he : (object ms).fingerprint ++ [] = v.fingerprint ++ [] := by rw [h]
    obtain ⟨ns, rfl⟩ := eq_object_of_mark (mark_eq_of_append he).symm
    rw [separable_object] at hu hv
    rw [wellFormed_object] at hw
    obtain ⟨hprints, -⟩ := members_cancel (fun e he f hf =>
      toldApart_fingerprint (Or.inr rfl) (hu e he) (hv f hf)) he
    rw [printAlike, alike_object]
    refine ⟨by simpa using hprints.length_eq, fun e hem => ?_⟩
    -- Sorting keeps no order of members, so the partner of one is found by its print alone.
    obtain ⟨f, hfm, hfe⟩ := List.mem_map.1 (hprints.mem_iff.1 (List.mem_map_of_mem hem))
    obtain ⟨hkey, hprint⟩ := memberPrint_eq_iff.1 hfe
    refine ⟨f.2, Dict.get?_of_mem hw.1 (hkey ▸ hfm), ?_⟩
    exact ih e hem (hu e hem).separable (hv f hfm).separable (hw.2 f hfm) hprint.symm
  | bool b => exact printAlike_of_scalar (by cases b <;> decide) (by cases b <;> decide) h
  | _ => exact printAlike_of_scalar (by simp [mark]) (by simp [mark]) h

theorem nodup_memberPrints {ms : List (String × Value)} (h : Dict.Distinct ms) :
    (ms.map memberPrint).Nodup := by
  have hkeys : ms.Pairwise fun e f => e.1 ≠ f.1 := List.pairwise_map.1 h
  exact List.pairwise_map.2 (hkeys.imp fun hne he => hne (memberPrint_eq_iff.1 he).1)

theorem fingerprint_eq_of_printAlike (hw : u.WellFormed) (h : u.printAlike v = true) :
    u.fingerprint = v.fingerprint := by
  refine alike_induct (motive := fun u v => u.WellFormed → u.fingerprint = v.fingerprint)
    ?null ?bool ?number ?string ?array ?object h hw
  case null => exact fun _ => rfl
  case bool | string => exact fun _ _ => rfl
  case number =>
    intro m n hmn _
    rw [fingerprint, fingerprint, (Number.numberPrint_eq_iff m n).2 hmn]
  case array =>
    intro xs ys hxs hw
    rw [wellFormed_array] at hw
    rw [List.forall₂_iff_zip] at hxs
    have hprints : xs.map fingerprint = ys.map fingerprint := by
      refine map_fingerprint_eq_iff.2 ⟨hxs.1, fun {x y} hxy => ?_⟩
      obtain ⟨hx, -⟩ := List.of_mem_zip hxy
      exact (hxs.2 hxy).2 (hw x hx)
    rw [fingerprint, fingerprint, itemPrints_eq, itemPrints_eq, hprints]
  case object =>
    intro ms ns hlength hms hw
    rw [wellFormed_object] at hw
    have hsub : ms.map memberPrint ⊆ ns.map memberPrint := by
      intro p hp
      obtain ⟨e, he, rfl⟩ := List.mem_map.1 hp
      obtain ⟨y, hy, -, hey⟩ := hms e he
      refine List.mem_map.2 ⟨(e.1, y), Dict.mem_of_get? hy, ?_⟩
      exact memberPrint_eq_iff.2 ⟨rfl, (hey (hw.2 e he)).symm⟩
    -- The prints of the first object are distinct and as many as those of the second.
    have hperm : (ms.map memberPrint).Perm (ns.map memberPrint) :=
      (List.subperm_of_subset (nodup_memberPrints hw.1) hsub).perm_of_length_le
        (by simpa using hlength.ge)
    have hsorted := sorted_eq_sorted_iff.2 hperm
    unfold sorted at hsorted
    rw [fingerprint, fingerprint, memberPrints_eq, memberPrints_eq, hsorted]

/-- What fingerprints tell of separable values. -/
theorem fingerprint_eq_iff (hu : u.WellFormed ∧ u.Separable) (hv : v.WellFormed ∧ v.Separable) :
    u.fingerprint = v.fingerprint ↔ u.printAlike v = true :=
  ⟨printAlike_of_fingerprint_eq hu.2 hv.2 hv.1, fingerprint_eq_of_printAlike hu.1⟩

theorem printAlike_symm (hu : u.WellFormed ∧ u.Separable) (hv : v.WellFormed ∧ v.Separable)
    (h : u.printAlike v = true) : v.printAlike u = true :=
  (fingerprint_eq_iff hv hu).1 ((fingerprint_eq_iff hu hv).2 h).symm

theorem printAlike_trans (hx : x.WellFormed ∧ x.Separable) (hu : u.WellFormed ∧ u.Separable)
    (hv : v.WellFormed ∧ v.Separable) (hxu : x.printAlike u = true) (huv : u.printAlike v = true) :
    x.printAlike v = true := by
  have hfirst : x.fingerprint = u.fingerprint := (fingerprint_eq_iff hx hu).2 hxu
  have hsecond : u.fingerprint = v.fingerprint := (fingerprint_eq_iff hu hv).2 huv
  exact (fingerprint_eq_iff hx hv).1 (hfirst.trans hsecond)

theorem equal_of_printAlike (h : u.printAlike v = true) : u.equal v = true :=
  alike_mono (fun a b hab => by
    rw [Number.printAlike, Bool.and_eq_true] at hab
    exact hab.1) h

theorem equal_trans_printAlike (hx : x.equal u = true) (h : u.printAlike v = true) :
    x.equal v = true := by
  unfold equal at hx ⊢
  refine alike_comp (fun a b c hab hbc => ?_) hx h
  exact decide_eq_true (Number.order_eq_of_printAlike hbc (of_decide_eq_true hab))

end NestedData.Value
