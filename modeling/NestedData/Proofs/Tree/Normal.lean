import NestedData.Proofs.Json.Values
import NestedData.Proofs.Tree.Keys
import NestedData.Proofs.Tree.Writing
/-!
Normal forms. The tree of a value is in normal form whatever paths the keys of the value stand for,
and a tree in normal form is the tree of the value that it denotes, with its children in their
order. So turning a tree into a value and back changes nothing once it has been done.
-/

namespace NestedData.Tree

variable {delimiters : List Char} {t node : Tree} {path : List String}
  {cs es : List (String × Tree)} {ms : List (String × Value)}

theorem normal_empty : Normal delimiters empty :=
  normal_branch.2 ⟨List.nodup_nil, fun _ he => absurd he List.not_mem_nil⟩

theorem Normal.children (h : Normal delimiters t) : Normal delimiters (.branch t.children) := by
  cases t with
  | leaf v => exact normal_empty
  | branch cs => exact h

theorem Normal.child (h : Normal delimiters t) (key : String) :
    Normal delimiters ((t.child? key).getD empty) := by
  cases hc : t.child? key with
  | none => exact normal_empty
  | some c =>
    rw [← get?_children] at hc
    exact ((normal_branch.1 h.children).2 _ (Dict.mem_of_get? hc)).2

theorem Normal.put (ht : Normal delimiters t) (hp : ∀ s ∈ path, Whole delimiters s)
    (hn : Normal delimiters node) : Normal delimiters (t.put path node) := by
  induction path generalizing t with
  | nil => exact hn
  | cons key path ih =>
    rw [List.forall_mem_cons] at hp
    have hchildren := normal_branch.1 ht.children
    rw [put_cons]
    refine normal_branch.2 ⟨hchildren.1.insert _ _, fun e he => ?_⟩
    rcases Dict.mem_insert he with rfl | he
    · exact ⟨hp.1, ih (ht.child key) hp.2⟩
    · exact hchildren.2 e he

theorem normal_putMembers {ds : List String}
    (hkeys : ∀ key, ∀ s ∈ keySegments ds key, Whole delimiters s) (ht : Normal delimiters t)
    (hms : ∀ e ∈ ms, Normal delimiters (ofValue ds e.2)) :
    Normal delimiters (putMembers ds ms t) := by
  induction ms generalizing t with
  | nil => rwa [putMembers]
  | cons e ms ih =>
    rw [List.forall_mem_cons] at hms
    rw [putMembers]
    exact ih (ht.put (hkeys e.1) hms.1) hms.2

theorem mem_ofItems {ds : List String} {n : ℕ} {vs : List Value} {e : String × Tree}
    (h : e ∈ ofItems ds n vs) : ∃ i, n ≤ i ∧ ∃ v ∈ vs, e = (indexKey i, ofValue ds v) := by
  induction vs generalizing n with
  | nil =>
    rw [ofItems] at h
    cases h
  | cons v vs ih =>
    rw [ofItems] at h
    rcases List.mem_cons.1 h with rfl | h
    · exact ⟨n, le_rfl, v, List.mem_cons_self, rfl⟩
    · obtain ⟨i, hi, w, hw, rfl⟩ := ih h
      exact ⟨i, by omega, w, List.mem_cons_of_mem v hw, rfl⟩

theorem distinct_ofItems (ds : List String) (n : ℕ) (vs : List Value) :
    Dict.Distinct (ofItems ds n vs) := by
  induction vs generalizing n with
  | nil =>
    rw [ofItems]
    exact List.nodup_nil
  | cons v vs ih =>
    rw [ofItems]
    refine List.nodup_cons.2 ⟨fun hk => ?_, ih (n + 1)⟩
    obtain ⟨e, he, hek⟩ := List.mem_map.1 hk
    obtain ⟨i, hi, w, -, rfl⟩ := mem_ofItems he
    have hin : i = n := indexKey_injective hek
    omega

theorem normal_ofItems {ds : List String} (hindex : ∀ n, Whole delimiters (indexKey n))
    {vs : List Value} (hvs : ∀ v ∈ vs, Normal delimiters (ofValue ds v)) :
    Normal delimiters (.branch (ofItems ds 0 vs)) := by
  refine normal_branch.2 ⟨distinct_ofItems _ 0 vs, fun e he => ?_⟩
  obtain ⟨i, -, v, hv, rfl⟩ := mem_ofItems he
  exact ⟨hindex i, hvs v hv⟩

theorem normal_ofValue_of_whole {ds : List String}
    (hkeys : ∀ key, ∀ s ∈ keySegments ds key, Whole delimiters s)
    (hindex : ∀ n, Whole delimiters (indexKey n)) (v : Value) :
    Normal delimiters (ofValue ds v) := by
  induction v with
  | object ms ih =>
    rw [ofValue]
    exact normal_putMembers hkeys normal_empty ih
  | array vs ih =>
    rw [ofValue]
    exact normal_ofItems hindex ih
  | null | bool | number | string =>
    rw [ofValue, normal_leaf]
    trivial

theorem normal_ofValue (hd : ∀ c ∈ delimiters, c.isDigit = false) (v : Value) :
    Normal delimiters (ofValue (texts delimiters) v) :=
  normal_ofValue_of_whole (fun _ _ => whole_of_mem_keySegments) (whole_indexKey hd) v

theorem ofValue_of_atomic {v : Value} (h : (leaf v).Atomic) (ds : List String) :
    ofValue ds v = .leaf v := by
  cases v with
  | array | object => exact h.elim
  | null | bool | number | string => rw [ofValue]

theorem ofItems_childValues {ds : List String} (h : ∀ e ∈ cs, ofValue ds e.2.toValue = e.2) {n : ℕ}
    (hn : countsFrom n (Dict.keys cs) = true) : ofItems ds n (childValues cs) = cs := by
  induction cs generalizing n with
  | nil => rw [childValues, ofItems]
  | cons e cs ih =>
    obtain ⟨key, t⟩ := e
    rw [List.forall_mem_cons] at h
    rw [Dict.keys, List.map_cons, countsFrom, Bool.and_eq_true, decide_eq_true_eq] at hn
    obtain ⟨hkey, hn⟩ := hn
    rw [childValues, ofItems, h.1, ih h.2 hn, ← hkey]

theorem childValues_eq_map (cs : List (String × Tree)) :
    childValues cs = cs.map fun e => e.2.toValue := by
  induction cs with
  | nil => rw [childValues, List.map_nil]
  | cons e cs ih => rw [childValues, ih, List.map_cons]

theorem childMembers_eq_map (cs : List (String × Tree)) :
    childMembers cs = cs.map fun e => (e.1, e.2.toValue) := by
  induction cs with
  | nil => rw [childMembers, List.map_nil]
  | cons e cs ih => rw [childMembers, ih, List.map_cons]

theorem ofValue_object (h : ∀ e ∈ ms, Whole delimiters e.1) :
    ofValue (texts delimiters) (.object ms) =
      .branch (Dict.ofEntries (ms.map fun e => (e.1, ofValue (texts delimiters) e.2))) := by
  have hput (es : List (String × Tree)) : putMembers (texts delimiters) ms (.branch es) = .branch
      (ms.foldl (fun d e => Dict.insert e.1 (ofValue (texts delimiters) e.2) d) es) := by
    induction ms generalizing es with
    | nil => rw [putMembers, List.foldl_nil]
    | cons e ms ih =>
      rw [List.forall_mem_cons] at h
      rw [putMembers, keySegments_of_whole h.1, put_cons, List.foldl_cons]
      exact ih h.2 _
  rw [ofValue, Dict.ofEntries, List.foldl_map]
  exact hput []

theorem ofValue_toValue (h : Normal delimiters t) : ofValue (texts delimiters) t.toValue = t := by
  induction t with
  | leaf v =>
    rw [toValue]
    exact ofValue_of_atomic h.atomic _
  | branch cs ih =>
    obtain ⟨hdistinct, hcs⟩ := normal_branch.1 h
    have hback : ∀ e ∈ cs, ofValue (texts delimiters) e.2.toValue = e.2 := fun e he =>
      ih e he (hcs e he).2
    rw [toValue]
    split
    · rename_i hlist
      rw [isList, Bool.and_eq_true] at hlist
      rw [ofValue, ofItems_childValues hback hlist.2]
    · have hkeys : ∀ e ∈ cs.map fun e => (e.1, e.2.toValue), Whole delimiters e.1 :=
        List.forall_mem_map.2 fun e he => (hcs e he).1
      have hsame : cs.map (fun e => (e.1, ofValue (texts delimiters) e.2.toValue)) = cs := by
        rw [List.map_congr_left fun e he => congrArg (Prod.mk e.1) (hback e he), List.map_id']
      rw [childMembers_eq_map, ofValue_object hkeys, List.map_map]
      exact congrArg branch
        ((congrArg Dict.ofEntries hsame).trans (Dict.ofEntries_of_distinct hdistinct))

/-- The tree of a value has no leaf with a list or an object and no key with a delimiter, and every
such tree comes back, child by child, from the value that it denotes. -/
theorem normal_forms (hd : ∀ c ∈ delimiters, c.isDigit = false) :
    (∀ v, Normal delimiters (ofValue (texts delimiters) v)) ∧
    (∀ t, Normal delimiters t → ofValue (texts delimiters) t.toValue = t) ∧
    ∀ v, ofValue (texts delimiters) (ofValue (texts delimiters) v).toValue =
      ofValue (texts delimiters) v := by
  refine ⟨normal_ofValue hd, fun t => ofValue_toValue, ?_⟩
  intro v
  exact ofValue_toValue (normal_ofValue hd v)

/-- Two delimiters, keys that overlap as paths, the empty key, the keys of a list out of order. -/
theorem normal_forms_overlapping :
    let v : Value := .object [("a.b", .null), ("", .array [.null]), ("a/b.c", .bool true),
      ("a", .object [("1", .null), ("0", .array [])])]
    let t : Tree := .branch [("a", .branch [("1", .leaf .null), ("0", .branch [])]),
      ("", .branch [("0", .leaf .null)])]
    (∀ c ∈ ['.', '/'], c.isDigit = false) ∧ ofValue [".", "/"] v = t ∧ Normal ['.', '/'] t ∧
      ofValue [".", "/"] t.toValue = t := by
  intro v t
  have hd : ∀ c ∈ ['.', '/'], c.isDigit = false := by simp
  have ht : ofValue [".", "/"] v = t := rfl
  obtain ⟨hnormal, hback, -⟩ := normal_forms hd
  have hn : Normal ['.', '/'] t := ht ▸ hnormal v
  exact ⟨hd, ht, hn, hback t hn⟩

end NestedData.Tree
