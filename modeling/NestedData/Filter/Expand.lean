import NestedData.Filter.Condition
import NestedData.Text.Search
/-!
Dotted keys of filter documents. A key with two or more parts between its dots stands for nested
objects; the entries are placed in order, as writes are, so that a later one overwrites what an
earlier one left at its path. Objects inside are expanded as well, unless a key of theirs is an
operator. Expansion never adds to the weight of a document, which bounds the work of reading it.
-/

namespace NestedData.Filter

abbrev Document := List (String × Value)

def keyParts (key : String) : List String :=
  ((Text.cutAt ['.'] key.toList).filter (· ≠ [])).map String.ofList

def hasOperator (d : Document) : Bool := d.any fun e => isOperatorKey e.1

/-- Puts a value at a path, making objects of whatever is on the way. -/
def placeAt : List String → Value → Document → Document
  | [], _, d => d
  | [k], v, d => Dict.insert k v d
  | k :: l :: rest, v, d =>
    let inner := ((Dict.get? k d).bind Value.members?).getD []
    Dict.insert k (.object (placeAt (l :: rest) v inner)) d

/-- Puts a value at the path a key stands for; a key with less than two parts stays as it is. -/
def place (key : String) (v : Value) (d : Document) : Document :=
  let parts := keyParts key
  if 1 < parts.length then placeAt parts v d else Dict.insert key v d

mutual
def expandValue : Value → Value
  | .object ms => if hasOperator ms then .object ms else .object (expandInto [] ms)
  | .null => .null
  | .bool b => .bool b
  | .number n => .number n
  | .string s => .string s
  | .array items => .array items

def expandInto (d : Document) : Document → Document
  | [] => d
  | (k, v) :: rest => expandInto (place k (expandValue v) d) rest
end

def expand (d : Document) : Document := expandInto [] d

/-- A key counts for the objects and keys it may expand to. -/
def keyWeight (key : String) : Nat :=
  2 * (keyParts key).length - 1 + (if keyParts key = [] then 1 else 0)

mutual
def weight : Value → Nat
  | .array items => 1 + weightItems items
  | .object ms => 1 + weightMembers ms
  | _ => 1

def weightItems : List Value → Nat
  | [] => 0
  | v :: rest => weight v + weightItems rest

def weightMembers : List (String × Value) → Nat
  | [] => 0
  | (k, v) :: rest => keyWeight k + weight v + weightMembers rest
end

theorem keyWeight_pos (key : String) : 0 < keyWeight key := by
  unfold keyWeight
  cases h : keyParts key with
  | nil => simp
  | cons p ps => simp only [List.length_cons, reduceCtorEq, if_false]; omega

theorem weight_lt_array {v : Value} {items : List Value} (h : v ∈ items) :
    weight v < weight (.array items) := by
  have hitems : weight v ≤ weightItems items := by
    induction items with
    | nil => cases h
    | cons w rest ih =>
      rw [weightItems]
      rcases List.mem_cons.1 h with rfl | h
      · omega
      · have := ih h
        omega
  rw [weight]
  omega

theorem weight_lt_members {key : String} {v : Value} {d : Document} (h : (key, v) ∈ d) :
    weight v < weightMembers d := by
  induction d with
  | nil => cases h
  | cons e d ih =>
    obtain ⟨j, w⟩ := e
    rw [weightMembers]
    rcases List.mem_cons.1 h with h | h
    · obtain ⟨rfl, rfl⟩ := Prod.mk.inj h
      have := keyWeight_pos key
      omega
    · have := ih h
      omega

theorem keyParts_of_mem {key part : String} (h : part ∈ keyParts key) : keyParts part = [part] := by
  obtain ⟨p, hp, rfl⟩ := List.mem_map.1 h
  obtain ⟨hm, hn⟩ := List.mem_filter.1 hp
  have hn' : p ≠ [] := by simpa using hn
  simp [keyParts, String.toList_ofList, Text.cutAt_eq_singleton (Text.not_mem_of_mem_cutAt hm), hn']

theorem keyWeight_of_mem {key part : String} (h : part ∈ keyParts key) : keyWeight part = 1 := by
  simp [keyWeight, keyParts_of_mem h]

theorem weightMembers_insert_le (k : String) (v : Value) (d : Document) :
    weightMembers (Dict.insert k v d) ≤ weightMembers d + keyWeight k + weight v := by
  induction d with
  | nil => simp [Dict.insert, weightMembers]
  | cons e d ih =>
    obtain ⟨j, w⟩ := e
    by_cases h : j = k
    · subst h
      simp only [Dict.insert, if_true, weightMembers]
      omega
    · simp only [Dict.insert, h, if_false, weightMembers]
      omega

theorem weightMembers_replace_le {k : String} {w : Value} {d : Document}
    (h : Dict.get? k d = some w) (v : Value) :
    weightMembers (Dict.insert k v d) + weight w ≤ weightMembers d + weight v := by
  induction d with
  | nil => simp [Dict.get?] at h
  | cons e d ih =>
    obtain ⟨j, u⟩ := e
    by_cases hj : j = k
    · subst hj
      simp only [Dict.get?, if_true, Option.some.injEq] at h
      subst h
      simp only [Dict.insert, if_true, weightMembers]
      omega
    · simp only [Dict.get?, hj, if_false] at h
      have := ih h
      simp only [Dict.insert, hj, if_false, weightMembers]
      omega

theorem weightMembers_placeAt_le {parts : List String} (hw : ∀ p ∈ parts, keyWeight p = 1)
    (hne : parts ≠ []) (v : Value) (d : Document) :
    weightMembers (placeAt parts v d) ≤ weightMembers d + (2 * parts.length - 1) + weight v := by
  induction parts generalizing d with
  | nil => exact absurd rfl hne
  | cons k rest ih =>
    cases rest with
    | nil =>
      have := weightMembers_insert_le k v d
      have hk := hw k (by simp)
      simp only [placeAt, List.length_singleton]
      omega
    | cons l rest =>
      have hk := hw k (by simp)
      have ih' := fun d => ih (fun p hp => hw p (by simp [hp])) (by simp) d
      simp only [placeAt, List.length_cons] at ih' ⊢
      cases hg : Dict.get? k d with
      | none =>
        have h1 := ih' []
        have h2 := weightMembers_insert_le k (.object (placeAt (l :: rest) v [])) d
        simp only [weight, weightMembers] at h1 h2
        simp only [Option.bind_none, Option.getD_none]
        omega
      | some w =>
        have h2 := weightMembers_replace_le hg
          (.object (placeAt (l :: rest) v (((some w).bind Value.members?).getD [])))
        have h1 := ih' (((some w).bind Value.members?).getD [])
        have h3 : weightMembers (((some w).bind Value.members?).getD []) < weight w := by
          cases w <;> simp only [Value.members?, Option.bind_some, Option.getD_none,
            Option.getD_some, weight, weightMembers] <;> omega
        simp only [weight] at h2
        omega

theorem weightMembers_place_le (k : String) (v : Value) (d : Document) :
    weightMembers (place k v d) ≤ weightMembers d + keyWeight k + weight v := by
  by_cases h : 1 < (keyParts k).length
  · have hne : keyParts k ≠ [] := by intro hn; simp [hn] at h
    have := weightMembers_placeAt_le (fun p hp => keyWeight_of_mem hp) hne v d
    simp only [place, h, if_true, keyWeight, hne, if_false, Nat.add_zero]
    exact this
  · simp only [place, h, if_false]
    exact weightMembers_insert_le k v d

mutual
theorem weight_expandValue_le (v : Value) : weight (expandValue v) ≤ weight v := by
  cases v with
  | object ms =>
    unfold expandValue
    split
    · exact Nat.le_refl _
    · have := weightMembers_expandInto_le [] ms
      simp only [weight, weightMembers] at *
      omega
  | null | bool | number | string | array => simp [expandValue]

theorem weightMembers_expandInto_le (d ms : Document) :
    weightMembers (expandInto d ms) ≤ weightMembers d + weightMembers ms := by
  match ms with
  | [] => simp [expandInto, weightMembers]
  | (k, v) :: rest =>
    have h1 := weight_expandValue_le v
    have h2 := weightMembers_place_le k (expandValue v) d
    have h3 := weightMembers_expandInto_le (place k (expandValue v) d) rest
    simp only [expandInto, weightMembers] at *
    omega
end

/-- Expansion never makes a document heavier. -/
theorem weightMembers_expand_le (d : Document) : weightMembers (expand d) ≤ weightMembers d := by
  have := weightMembers_expandInto_le [] d
  simpa [expand, weightMembers] using this

end NestedData.Filter
