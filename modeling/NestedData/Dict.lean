/-!
Insertion-ordered dictionaries with text keys, as lists of entries. Writing an existing key keeps
its place, a new key goes last, and erasing keeps the order of what is left. The first entry of a
key is the one that counts; `Distinct` dictionaries hold no other, and every operation keeps that.
-/

namespace NestedData

abbrev Dict (α : Type) := List (String × α)

namespace Dict

variable {α β : Type}

def get? (k : String) : List (String × α) → Option α
  | [] => none
  | (j, v) :: rest => if j = k then some v else get? k rest

def insert (k : String) (v : α) : List (String × α) → List (String × α)
  | [] => [(k, v)]
  | (j, w) :: rest => if j = k then (j, v) :: rest else (j, w) :: insert k v rest

def erase (k : String) (d : List (String × α)) : List (String × α) :=
  d.filter fun e => e.1 ≠ k

def keys (d : List (String × α)) : List String := d.map Prod.fst

def values (d : List (String × α)) : List α := d.map Prod.snd

/-- The dictionary that writing the entries in order leaves. -/
def ofEntries (entries : List (String × α)) : List (String × α) :=
  entries.foldl (fun d e => insert e.1 e.2 d) []

def Distinct (d : List (String × α)) : Prop := (keys d).Nodup

instance (d : List (String × α)) : Decidable (Distinct d) :=
  inferInstanceAs (Decidable (keys d).Nodup)

@[simp] theorem get?_nil (k : String) : get? k ([] : List (String × α)) = none := rfl

@[simp] theorem get?_insert_self (k : String) (v : α) (d : List (String × α)) :
    get? k (insert k v d) = some v := by
  induction d with
  | nil => simp [insert, get?]
  | cons e d ih => by_cases h : e.1 = k <;> simp [insert, get?, h, ih]

theorem get?_insert_of_ne {k l : String} (h : l ≠ k) (v : α) (d : List (String × α)) :
    get? l (insert k v d) = get? l d := by
  induction d with
  | nil => simp [insert, get?, Ne.symm h]
  | cons e d ih =>
    obtain ⟨j, w⟩ := e
    by_cases hj : j = k
    · subst hj
      simp [insert, get?, Ne.symm h]
    · simp [insert, get?, hj, ih]

theorem get?_insert_comm {k l : String} (h : k ≠ l) (v w : α) (d : List (String × α))
    (j : String) : get? j (insert k v (insert l w d)) = get? j (insert l w (insert k v d)) := by
  by_cases hk : j = k
  · subst hk
    rw [get?_insert_self, get?_insert_of_ne h, get?_insert_self]
  · rw [get?_insert_of_ne hk]
    by_cases hl : j = l
    · subst hl
      rw [get?_insert_self, get?_insert_self]
    · rw [get?_insert_of_ne hl, get?_insert_of_ne hl, get?_insert_of_ne hk]

@[simp] theorem get?_erase_self (k : String) (d : List (String × α)) :
    get? k (erase k d) = none := by
  induction d with
  | nil => rfl
  | cons e d ih =>
    by_cases h : e.1 = k
    · simpa [erase, h] using ih
    · simp only [erase, List.filter_cons, ne_eq, h, not_false_eq_true, decide_true, if_true, get?,
        if_false]
      exact ih

theorem get?_erase_of_ne {k l : String} (h : l ≠ k) (d : List (String × α)) :
    get? l (erase k d) = get? l d := by
  induction d with
  | nil => rfl
  | cons e d ih =>
    by_cases hk : e.1 = k
    · have hl : ¬ e.1 = l := fun hl => h (hl.symm.trans hk)
      simp only [get?, hl, if_false, ← ih]
      simp [erase, hk]
    · simp only [erase, List.filter_cons, ne_eq, hk, not_false_eq_true, decide_true, if_true, get?]
      split
      · rfl
      · exact ih

theorem keys_insert (k : String) (v : α) (d : List (String × α)) :
    keys (insert k v d) = if k ∈ keys d then keys d else keys d ++ [k] := by
  induction d with
  | nil => simp [insert, keys]
  | cons e d ih =>
    by_cases h : e.1 = k
    · simp [insert, keys, h]
    · have hk : ¬ k = e.1 := fun he => h he.symm
      simp only [keys] at ih
      simp only [insert, h, if_false, keys, List.map_cons, ih, List.mem_cons, hk, false_or]
      split <;> simp [*]

theorem mem_keys_insert {j k : String} {v : α} {d : List (String × α)} :
    j ∈ keys (insert k v d) ↔ j = k ∨ j ∈ keys d := by
  rw [keys_insert]
  split
  · rename_i hk
    constructor
    · exact Or.inr
    · rintro (rfl | hj)
      · exact hk
      · exact hj
  · rw [List.mem_append, List.mem_singleton, or_comm]

theorem insert_of_get? {k : String} {v : α} {d : List (String × α)} (h : get? k d = some v) :
    insert k v d = d := by
  induction d with
  | nil => simp at h
  | cons e d ih =>
    obtain ⟨j, w⟩ := e
    by_cases hj : j = k
    · have hw : w = v := by simpa [get?, hj] using h
      simp [insert, hj, hw]
    · simp only [get?, hj, if_false] at h
      simp [insert, hj, ih h]

@[simp] theorem insert_insert_self (k : String) (v w : α) (d : List (String × α)) :
    insert k v (insert k w d) = insert k v d := by
  induction d with
  | nil => simp [insert]
  | cons e d ih => by_cases h : e.1 = k <;> simp [insert, h, ih]

theorem keys_erase (k : String) (d : List (String × α)) :
    keys (erase k d) = (keys d).filter (· ≠ k) := by
  simp [keys, erase, List.filter_map, Function.comp_def]

theorem Distinct.insert {d : List (String × α)} (h : Distinct d) (k : String) (v : α) :
    Distinct (insert k v d) := by
  unfold Distinct at *
  rw [keys_insert]
  split
  · exact h
  · rename_i hk
    refine List.nodup_append.2 ⟨h, by simp, ?_⟩
    intro a ha b hb hab
    rw [List.mem_singleton] at hb
    exact hk (hb ▸ hab ▸ ha)

theorem Distinct.erase {d : List (String × α)} (h : Distinct d) (k : String) :
    Distinct (erase k d) := by
  unfold Distinct at *
  rw [keys_erase]
  exact h.filter _

theorem mem_of_get? {k : String} {v : α} {d : List (String × α)} (h : get? k d = some v) :
    (k, v) ∈ d := by
  induction d with
  | nil => cases h
  | cons e d ih =>
    obtain ⟨j, w⟩ := e
    by_cases hj : j = k
    · have hw : w = v := by simpa [get?, hj] using h
      rw [hj, hw]
      exact List.mem_cons_self
    · simp only [get?, hj, if_false] at h
      exact List.mem_cons_of_mem _ (ih h)

theorem Distinct.of_cons {e : String × α} {d : List (String × α)} (h : Distinct (e :: d)) :
    Distinct d := (List.nodup_cons.1 h).2

theorem Distinct.ne_of_mem {e f : String × α} {d : List (String × α)} (h : Distinct (e :: d))
    (hf : f ∈ d) : f.1 ≠ e.1 := by
  intro hk
  exact (List.nodup_cons.1 h).1 (List.mem_map.2 ⟨f, hf, hk⟩)

theorem get?_of_mem {k : String} {v : α} {d : List (String × α)} (hd : Distinct d)
    (h : (k, v) ∈ d) : get? k d = some v := by
  induction d with
  | nil => cases h
  | cons e d ih =>
    obtain ⟨j, w⟩ := e
    rcases List.mem_cons.1 h with he | hm
    · obtain ⟨rfl, rfl⟩ := Prod.mk.inj he
      simp [get?]
    · have hj : j ≠ k := (hd.ne_of_mem hm).symm
      simp only [get?, hj, if_false]
      exact ih hd.of_cons hm

variable {k : String} {v : α} {d : List (String × α)}

theorem get?_eq_none_iff : get? k d = none ↔ k ∉ keys d := by
  induction d with
  | nil => simp [keys]
  | cons e d ih =>
    obtain ⟨j, w⟩ := e
    by_cases hj : j = k
    · simp [get?, keys, hj]
    · have hk : k ≠ j := fun h => hj h.symm
      rw [get?, if_neg hj, ih]
      simp [keys, hk]

theorem insert_of_get?_eq_none (h : get? k d = none) (v : α) : insert k v d = d ++ [(k, v)] := by
  induction d with
  | nil => rfl
  | cons e d ih =>
    obtain ⟨j, w⟩ := e
    by_cases hj : j = k
    · simp [get?, hj] at h
    · rw [get?, if_neg hj] at h
      rw [insert, if_neg hj, ih h, List.cons_append]

theorem mem_insert {e : String × α} (h : e ∈ insert k v d) : e = (k, v) ∨ e ∈ d := by
  induction d with
  | nil => exact Or.inl (List.mem_singleton.1 h)
  | cons f d ih =>
    obtain ⟨j, w⟩ := f
    by_cases hj : j = k
    · rw [insert, if_pos hj, List.mem_cons] at h
      rw [← hj]
      exact h.imp_right (List.mem_cons_of_mem _)
    · rw [insert, if_neg hj, List.mem_cons] at h
      rcases h with rfl | h
      · exact Or.inr List.mem_cons_self
      · exact (ih h).imp_right (List.mem_cons_of_mem _)

theorem forall_mem_insert (hd : Distinct d) (P : String × α → Prop) :
    (∀ e ∈ insert k v d, P e) ↔ P (k, v) ∧ ∀ e ∈ d, e.1 ≠ k → P e := by
  induction d with
  | nil => simp [insert]
  | cons e d ih =>
    obtain ⟨j, w⟩ := e
    rw [List.forall_mem_cons]
    by_cases hj : j = k
    · subst hj
      rw [insert, if_pos rfl, List.forall_mem_cons]
      constructor
      · rintro ⟨hk, h⟩
        exact ⟨hk, fun hjj => absurd rfl hjj, fun e he _ => h e he⟩
      · rintro ⟨hk, -, h⟩
        exact ⟨hk, fun e he => h e he (hd.ne_of_mem he)⟩
    · rw [insert, if_neg hj, List.forall_mem_cons, ih hd.of_cons]
      constructor
      · rintro ⟨hjw, hk, h⟩
        exact ⟨hk, fun _ => hjw, h⟩
      · rintro ⟨hk, hjw, h⟩
        exact ⟨hjw hj, hk, h⟩

theorem foldl_insert_of_distinct {es : List (String × α)} (h : Distinct (d ++ es)) :
    es.foldl (fun d e => insert e.1 e.2 d) d = d ++ es := by
  induction es generalizing d with
  | nil => exact (List.append_nil d).symm
  | cons e es ih =>
    have he : e.1 ∉ keys d := by
      intro hk
      obtain ⟨f, hf, hfe⟩ := List.mem_map.1 hk
      rw [Distinct, keys, List.map_append, List.nodup_append] at h
      exact h.2.2 f.1 (List.mem_map_of_mem hf) e.1 (by simp) hfe
    have hd : insert e.1 e.2 d = d ++ [e] := insert_of_get?_eq_none (get?_eq_none_iff.2 he) e.2
    rw [List.foldl_cons, hd, ih (by simpa using h), List.append_assoc, List.singleton_append]

theorem ofEntries_of_distinct (h : Distinct d) : ofEntries d = d :=
  foldl_insert_of_distinct (d := []) h

theorem distinct_ofEntries (es : List (String × α)) : Distinct (ofEntries es) := by
  have hfold (d : List (String × α)) (hd : Distinct d) :
      Distinct (es.foldl (fun d e => insert e.1 e.2 d) d) := by
    induction es generalizing d with
    | nil => exact hd
    | cons e es ih => exact ih _ (hd.insert e.1 e.2)
  exact hfold [] List.nodup_nil

theorem mem_of_mem_ofEntries {e : String × α} {es : List (String × α)} (h : e ∈ ofEntries es) :
    e ∈ es := by
  have hfold (es d : List (String × α)) (hd : e ∈ es.foldl (fun d e => insert e.1 e.2 d) d) :
      e ∈ d ∨ e ∈ es := by
    induction es generalizing d with
    | nil => exact Or.inl hd
    | cons f es ih =>
      rcases ih _ hd with hm | hm
      · rcases mem_insert hm with rfl | hm
        · exact Or.inr List.mem_cons_self
        · exact Or.inl hm
      · exact Or.inr (List.mem_cons_of_mem f hm)
  exact (hfold es [] h).resolve_left List.not_mem_nil

theorem keys_map (f : α → β) (d : List (String × α)) :
    keys (d.map fun e => (e.1, f e.2)) = keys d := by
  unfold keys
  rw [List.map_map]
  rfl

theorem get?_map (f : α → β) (k : String) (d : List (String × α)) :
    get? k (d.map fun e => (e.1, f e.2)) = (get? k d).map f := by
  induction d with
  | nil => rfl
  | cons e d ih =>
    rw [List.map_cons, get?, get?]
    by_cases h : e.1 = k
    · rw [if_pos h, if_pos h]
      rfl
    · rw [if_neg h, if_neg h, ih]

theorem insert_map (f : α → β) (k : String) (v : α) (d : List (String × α)) :
    insert k (f v) (d.map fun e => (e.1, f e.2)) = (insert k v d).map fun e => (e.1, f e.2) := by
  induction d with
  | nil => rfl
  | cons e d ih =>
    rw [List.map_cons, insert, insert]
    by_cases h : e.1 = k
    · rw [if_pos h, if_pos h]
      rfl
    · rw [if_neg h, if_neg h, ih]
      rfl

theorem Distinct.map {d : List (String × α)} (h : Distinct d) (f : α → β) :
    Distinct (d.map fun e => (e.1, f e.2)) := by
  unfold Distinct
  rw [keys_map]
  exact h

end Dict
end NestedData
