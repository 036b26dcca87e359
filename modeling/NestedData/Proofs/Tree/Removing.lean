import NestedData.Proofs.Tree.Writing
/-!
What a removal does to a tree. Removing the node at a path is putting its parent in the place of
itself with one child less, and it fails, leaving the tree alone, exactly when there is no such
node. So every path that is left was there before, and what lies apart from the removed path stays.
-/

namespace NestedData.Tree

/-- A removal stops where a walk along its path stops. -/
theorem remove_of_walk_error {p : List String} (hp : p ≠ []) {t : Tree} {found : Nat}
    (h : walk p t = .error found) : t.remove p = .stopped t found := by
  induction p generalizing t found with
  | nil => exact absurd rfl hp
  | cons key p ih =>
    rw [walk] at h
    cases hc : t.child? key with
    | none =>
      rw [hc] at h
      obtain rfl := Except.error.inj h
      cases p <;> simp [remove, hc]
    | some c =>
      rw [hc] at h
      obtain ⟨n, hn, rfl⟩ := mapError_eq_error_iff.1 h
      cases p with
      | nil => cases hn
      | cons l p =>
        rw [remove.eq_def]
        simp only [hc, ih (List.cons_ne_nil l p) hn]
        exact stopped_ofChild hc _

theorem remove_of_missing {p : List String} (hp : p ≠ []) {t : Tree} (h : t.find? p = none) :
    ∃ found, t.remove p = .stopped t found := by
  cases hw : walk p t with
  | ok u =>
    rw [walk_eq_ok_iff, h] at hw
    cases hw
  | error found => exact ⟨found, remove_of_walk_error hp hw⟩

theorem remove_of_found {a : List String} {key : String} {t c : Tree} {cs : List (String × Tree)}
    (ha : t.find? a = some (.branch cs)) (hc : Dict.get? key cs = some c) :
    t.remove (a ++ [key]) = .done (t.put a (.branch (Dict.erase key cs))) := by
  induction a generalizing t with
  | nil =>
    obtain rfl := Option.some.inj ha
    rw [List.nil_append, remove.eq_def]
    simp [hc, put]
  | cons j a ih =>
    rw [find?_cons] at ha
    obtain ⟨d, hd, hda⟩ := Option.bind_eq_some_iff.1 ha
    have hne : ∃ l p, a ++ [key] = l :: p := by cases a <;> simp
    obtain ⟨l, p, hlp⟩ := hne
    have hw := ih hda
    rw [hlp] at hw
    rw [List.cons_append, hlp, remove.eq_def]
    simp only [hd, hw]
    rw [put_cons t, hd]
    rfl

theorem remove_of_isSome {p : List String} (hp : p ≠ []) {t : Tree} (h : (t.find? p).isSome) :
    ∃ a key cs, p = a ++ [key] ∧ t.find? a = some (.branch cs) ∧
      t.remove p = .done (t.put a (.branch (Dict.erase key cs))) := by
  rcases List.eq_nil_or_concat p with rfl | ⟨a, key, rfl⟩
  · exact absurd rfl hp
  · rw [List.concat_eq_append] at *
    obtain ⟨c, hc⟩ := Option.isSome_iff_exists.1 h
    rw [find?_append] at hc
    obtain ⟨u, hu, huc⟩ := Option.bind_eq_some_iff.1 hc
    rw [find?_singleton] at huc
    cases u with
    | leaf v => simp at huc
    | branch cs => exact ⟨a, key, cs, rfl, hu, remove_of_found hu huc⟩

theorem remove_result_iff {p : List String} (hp : p ≠ []) (t : Tree) :
    (t.remove p).result = .ok () ↔ (t.find? p).isSome := by
  cases h : t.find? p with
  | none =>
    obtain ⟨found, hf⟩ := remove_of_missing hp h
    simp [hf, Edited.stopped]
  | some c =>
    obtain ⟨a, key, cs, -, -, hr⟩ := remove_of_isSome hp (by rw [h]; rfl)
    simp [hr, Edited.done]

theorem remove_tree_of_error {p : List String} {t : Tree} {found : Nat}
    (h : (t.remove p).result = .error found) : (t.remove p).tree = t := by
  by_cases hp : p = []
  · subst hp; rfl
  cases hf : t.find? p with
  | none =>
    obtain ⟨n, hn⟩ := remove_of_missing hp hf
    rw [hn]
    rfl
  | some c =>
    rw [(remove_result_iff hp t).2 (by rw [hf]; rfl)] at h
    cases h

theorem find?_erase_isSome {key : String} {cs : List (String × Tree)} {p : List String}
    (h : ((branch (Dict.erase key cs)).find? p).isSome) : ((branch cs).find? p).isSome := by
  cases p with
  | nil => rfl
  | cons l p =>
    rw [find?_cons, child?_branch] at h ⊢
    by_cases hl : l = key
    · rw [hl, Dict.get?_erase_self] at h
      cases h
    · rwa [Dict.get?_erase_of_ne hl] at h

theorem find?_isSome_of_remove {p q : List String} (hp : p ≠ []) {t : Tree}
    (h : ((t.remove p).tree.find? q).isSome) : (t.find? q).isSome := by
  cases hf : t.find? p with
  | none =>
    obtain ⟨found, hr⟩ := remove_of_missing hp hf
    rwa [hr] at h
  | some c =>
    obtain ⟨a, key, cs, -, ha, hr⟩ := remove_of_isSome hp (by rw [hf]; rfl)
    rw [hr] at h
    rcases find?_isSome_of_put (by rw [ha]; rfl) h with hq | ⟨r, rfl, hq⟩
    · exact hq
    · rw [find?_append, ha]
      exact find?_erase_isSome hq

theorem find?_remove_of_apart {p q : List String} (h : Apart p q) (t : Tree) :
    (t.remove p).tree.find? q = t.find? q := by
  by_cases hp : p = []
  · exact absurd (hp ▸ h) (not_apart_nil_left q)
  cases hf : t.find? p with
  | none =>
    obtain ⟨found, hr⟩ := remove_of_missing hp hf
    rw [hr]
    rfl
  | some c =>
    obtain ⟨a, key, cs, rfl, ha, hr⟩ := remove_of_isSome hp (by rw [hf]; rfl)
    rw [hr]
    change (t.put a _).find? q = _
    by_cases haq : a <+: q
    · obtain ⟨r, rfl⟩ := haq
      rw [find?_put_append, find?_append, ha, Option.bind_some]
      have hr := apart_append_iff.1 h
      cases r with
      | nil => exact absurd hr (not_apart_nil_right _)
      | cons l r =>
        have hl : l ≠ key := fun hl => h.1 (by simp [hl])
        rw [find?_cons, find?_cons, child?_branch, child?_branch, Dict.get?_erase_of_ne hl]
    · exact find?_put_of_apart ⟨haq, fun hqa => h.2 (hqa.trans (List.prefix_append a _))⟩ t _

/-- The parent of the removed node has all its other children, in their order. -/
theorem find?_parent_of_remove {p : List String} (hp : p ≠ []) {t : Tree}
    (h : (t.find? p).isSome) :
    ∃ a key cs, p = a ++ [key] ∧ t.find? a = some (.branch cs) ∧
      (t.remove p).tree.find? a = some (.branch (cs.filter fun e => e.1 ≠ key)) := by
  obtain ⟨a, key, cs, rfl, ha, hr⟩ := remove_of_isSome hp h
  rw [hr]
  exact ⟨a, key, cs, rfl, ha, find?_put_self a t _⟩

theorem find?_remove_self {p : List String} (hp : p ≠ []) (t : Tree) :
    (t.remove p).tree.find? p = none := by
  cases hf : t.find? p with
  | none =>
    obtain ⟨found, hr⟩ := remove_of_missing hp hf
    rwa [hr]
  | some c =>
    obtain ⟨a, key, cs, rfl, -, ha⟩ := find?_parent_of_remove hp (by rw [hf]; rfl)
    rw [find?_append, ha, Option.bind_some, find?_singleton]
    exact Dict.get?_erase_self key cs

end NestedData.Tree
