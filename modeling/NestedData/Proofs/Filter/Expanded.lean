import NestedData.Filter.Spec
import NestedData.Proofs.Json.Values
/-!
Documents in which nothing is left to expand. Expansion leads to such a document and leaves it as it
is, and a document denotes the same condition before and after. So it does not matter that reading
expands a document inside another once for each of the documents around it.
-/

namespace NestedData.Filter

theorem hasOperator_eq (d : Document) : hasOperator d = (Dict.keys d).any isOperatorKey := by
  unfold hasOperator Dict.keys
  rw [List.any_map]
  rfl

theorem hasOperator_insert (k : String) (v : Value) (d : Document) :
    hasOperator (Dict.insert k v d) = (isOperatorKey k || hasOperator d) := by
  rw [hasOperator_eq, hasOperator_eq, Dict.keys_insert]
  split
  · rename_i hk
    cases ho : isOperatorKey k with
    | false => rfl
    | true => exact List.any_eq_true.2 ⟨k, hk, ho⟩
  · rw [List.any_append, List.any_cons, List.any_nil, Bool.or_false, Bool.or_comm]

/-- The document at a key, as it is found when a path goes on below the key. -/
def within (k : String) (d : Document) : Document := ((Dict.get? k d).bind Value.members?).getD []

theorem placeAt_cons_cons (k l : String) (rest : List String) (v : Value) (d : Document) :
    placeAt (k :: l :: rest) v d =
      Dict.insert k (.object (placeAt (l :: rest) v (within k d))) d := rfl

theorem hasOperator_placeAt (k : String) (rest : List String) (v : Value) (d : Document) :
    hasOperator (placeAt (k :: rest) v d) = (isOperatorKey k || hasOperator d) := by
  cases rest with
  | nil => exact hasOperator_insert k v d
  | cons l rest => exact hasOperator_insert k _ d

/-- A key that does not stand for nested objects. -/
def Single (key : String) : Prop := (keyParts key).length ≤ 1

instance (key : String) : Decidable (Single key) :=
  inferInstanceAs (Decidable ((keyParts key).length ≤ 1))

theorem single_of_mem {key part : String} (h : part ∈ keyParts key) : Single part := by
  unfold Single
  rw [keyParts_of_mem h]
  exact Nat.le_refl 1

/-- Values in which nothing is left to expand. An object with an operator is not expanded inside. -/
inductive Expanded : Value → Prop where
  | literal {v : Value} (h : v.members? = none) : Expanded v
  | operators {d : Document} (h : hasOperator d = true) : Expanded (.object d)
  | document {d : Document} (distinct : Dict.Distinct d) (keys : ∀ e ∈ d, Single e.1)
      (values : ∀ e ∈ d, Expanded e.2) : Expanded (.object d)

structure ExpandedDocument (d : Document) : Prop where
  distinct : Dict.Distinct d
  keys : ∀ e ∈ d, Single e.1
  values : ∀ e ∈ d, Expanded e.2

theorem ExpandedDocument.expanded {d : Document} (h : ExpandedDocument d) : Expanded (.object d) :=
  .document h.distinct h.keys h.values

theorem Expanded.expandedDocument {d : Document} (h : Expanded (.object d))
    (hd : hasOperator d = false) : ExpandedDocument d := by
  cases h with
  | literal h => cases h
  | operators h => rw [hd] at h; cases h
  | document distinct keys values => exact ⟨distinct, keys, values⟩

theorem expandedDocument_nil : ExpandedDocument [] :=
  ⟨List.nodup_nil, fun _ h => (List.not_mem_nil h).elim, fun _ h => (List.not_mem_nil h).elim⟩

variable {d es : Document} {k : String} {v : Value} {parts : List String}

theorem place_of_single (h : Single k) (v : Value) (d : Document) :
    place k v d = Dict.insert k v d := by
  unfold place
  exact if_neg (Nat.not_lt.2 h)

/-- Where an entry is placed: at the parts of its key, or at the key if it has less than two. -/
def keyPath (key : String) : List String := if Single key then [key] else keyParts key

theorem place_eq_placeAt (key : String) (v : Value) (d : Document) :
    place key v d = placeAt (keyPath key) v d := by
  unfold keyPath
  by_cases hk : Single key
  · rw [place_of_single hk, if_pos hk]
    rfl
  · unfold place
    rw [if_pos (Nat.not_le.1 hk), if_neg hk]

theorem keyPath_ne_nil (key : String) : keyPath key ≠ [] := by
  unfold keyPath
  by_cases hk : Single key
  · rw [if_pos hk]
    exact List.cons_ne_nil key []
  · rw [if_neg hk]
    intro hn
    unfold Single at hk
    rw [hn] at hk
    exact hk (Nat.zero_le 1)

theorem single_of_mem_keyPath {key s : String} (h : s ∈ keyPath key) : Single s := by
  unfold keyPath at h
  by_cases hk : Single key
  · rw [if_pos hk, List.mem_singleton] at h
    rwa [h]
  · rw [if_neg hk] at h
    exact single_of_mem h

theorem expandInto_eq_append (hd : Dict.Distinct (d ++ es)) (hk : ∀ e ∈ es, Single e.1)
    (hv : ∀ e ∈ es, expandValue e.2 = e.2) : expandInto d es = d ++ es := by
  induction es generalizing d with
  | nil => rw [expandInto, List.append_nil]
  | cons e es ih =>
    obtain ⟨k, v⟩ := e
    rw [List.forall_mem_cons] at hk hv
    have hkd : Dict.get? k d = none := by
      rw [Dict.get?_eq_none_iff]
      intro hm
      unfold Dict.Distinct Dict.keys at hd
      rw [List.map_append] at hd
      exact (List.nodup_append.1 hd).2.2 k hm k List.mem_cons_self rfl
    have happ : d ++ (k, v) :: es = d ++ [(k, v)] ++ es := by
      rw [List.append_assoc, List.singleton_append]
    rw [happ] at hd ⊢
    rw [expandInto, hv.1, place_of_single hk.1, Dict.insert_of_get?_eq_none hkd]
    exact ih hd hk.2 hv.2

theorem Expanded.expandValue_eq (h : Expanded v) : expandValue v = v := by
  induction h with
  | @literal v h =>
    cases v with
    | object ms => cases h
    | null | bool | number | string | array => rfl
  | @operators d h => rw [expandValue, if_pos h]
  | @document d distinct keys values ih =>
    rw [expandValue]
    split
    · rfl
    · rw [expandInto_eq_append (d := []) distinct keys ih, List.nil_append]

theorem ExpandedDocument.expand_eq (h : ExpandedDocument d) : expand d = d := by
  unfold expand
  rw [expandInto_eq_append (d := []) h.distinct h.keys fun e he => (h.values e he).expandValue_eq,
    List.nil_append]

theorem ExpandedDocument.insert (h : ExpandedDocument d) (hk : Single k) (hv : Expanded v) :
    ExpandedDocument (Dict.insert k v d) := by
  refine ⟨h.distinct.insert k v, ?_, ?_⟩
  · intro e he
    rcases Dict.mem_insert he with rfl | he
    · exact hk
    · exact h.keys e he
  · intro e he
    rcases Dict.mem_insert he with rfl | he
    · exact hv
    · exact h.values e he

theorem ExpandedDocument.within (h : ExpandedDocument d)
    (hw : hasOperator (Filter.within k d) = false) : ExpandedDocument (Filter.within k d) := by
  unfold Filter.within at hw ⊢
  cases hg : Dict.get? k d with
  | none => exact expandedDocument_nil
  | some w =>
    rw [hg] at hw
    cases w with
    | object inner => exact (h.values _ (Dict.mem_of_get? hg)).expandedDocument hw
    | null | bool | number | string | array => exact expandedDocument_nil

theorem ExpandedDocument.placeAt (hd : ExpandedDocument d) (hp : ∀ p ∈ parts, Single p)
    (hv : Expanded v) : ExpandedDocument (placeAt parts v d) := by
  induction parts generalizing d with
  | nil => exact hd
  | cons k rest ih =>
    rw [List.forall_mem_cons] at hp
    cases rest with
    | nil => exact hd.insert hp.1 hv
    | cons l rest =>
      rw [placeAt_cons_cons]
      refine hd.insert hp.1 ?_
      -- What is placed below operators stays among operators, which are not expanded.
      by_cases hw : hasOperator (Filter.within k d) = true
      · refine .operators ?_
        rw [hasOperator_placeAt, hw, Bool.or_true]
      · exact (ih (hd.within (Bool.eq_false_iff.2 hw)) hp.2).expanded

theorem ExpandedDocument.place (hd : ExpandedDocument d) (hv : Expanded v) (k : String) :
    ExpandedDocument (place k v d) := by
  rw [place_eq_placeAt]
  exact hd.placeAt (fun p hp => single_of_mem_keyPath hp) hv

theorem ExpandedDocument.expandInto (hd : ExpandedDocument d)
    (hv : ∀ e ∈ es, Expanded (expandValue e.2)) : ExpandedDocument (expandInto d es) := by
  induction es generalizing d with
  | nil => rwa [Filter.expandInto]
  | cons e es ih =>
    rw [List.forall_mem_cons] at hv
    rw [Filter.expandInto]
    exact ih (hd.place hv.1 e.1) hv.2

theorem expanded_expandValue (v : Value) : Expanded (expandValue v) := by
  induction v with
  | object ms ih =>
    rw [expandValue]
    split
    · rename_i h
      exact .operators h
    · exact (expandedDocument_nil.expandInto ih).expanded
  | null | bool | number | string | array => exact .literal rfl

theorem expandedDocument_expand (d : Document) : ExpandedDocument (expand d) :=
  expandedDocument_nil.expandInto fun e _ => expanded_expandValue e.2

theorem expand_expand (d : Document) : expand (expand d) = expand d :=
  (expandedDocument_expand d).expand_eq

/-- A document and its expansion denote the same condition. -/
theorem document_expand (d : Document) : document (expand d) = document d := by
  rw [document, document, expand_expand]

/-- A document without operators inside another one, with none but such documents in between. -/
inductive PlainWithin (d : Document) : Document → Prop where
  | member {k : String} {e : Document} (h : (k, .object e) ∈ d) (plain : hasOperator e = false) :
      PlainWithin d e
  | deeper {k : String} {c e : Document} (hc : PlainWithin d c) (h : (k, .object e) ∈ c)
      (plain : hasOperator e = false) : PlainWithin d e

theorem PlainWithin.expandedDocument {d e : Document} (he : PlainWithin d e)
    (hd : ExpandedDocument d) : ExpandedDocument e := by
  induction he with
  | member h plain => exact (hd.values _ h).expandedDocument plain
  | deeper _ h plain ih => exact (ih.values _ h).expandedDocument plain

/-- Expanding twice is expanding once, at the top and in every document without operators inside,
and a specification is read to the same condition or the same error before and after. -/
theorem expand_idempotent (d : Document) :
    expand (expand d) = expand d ∧
    (∀ e, PlainWithin (expand d) e → expand e = e) ∧
    Condition.ofSpec (.object (expand d)) = Condition.ofSpec (.object d) := by
  refine ⟨expand_expand d, ?_, document_expand d⟩
  intro e he
  exact (he.expandedDocument (expandedDocument_expand d)).expand_eq

end NestedData.Filter
