import NestedData.Proofs.Filter.Placing
import NestedData.Proofs.Json.Parts
/-!
Where the values in an expanded document come from. What the expansion places is taken over as it is
written, but a dotted key makes or changes each object that it passes. So a value is from the
specification unless it is an object, and an object that holds an operator is from there unless a
dotted key passes it.
-/

namespace NestedData.Filter

/-- The documents that reading may expand: those written in the specification, and those inside the
expansion of another. -/
inductive Met (spec : Value) : Document → Prop where
  | written {d : Document} (h : (Value.object d).Within spec) : Met spec d
  | expanded {d e : Document} (hd : Met spec d)
      (h : (Value.object e).Within (.object (expand d))) : Met spec e

/-- A dotted key of the document leads through the path. -/
def Leads (d : Document) (path : List String) : Prop :=
  ∃ key ∈ Dict.keys d, ¬ Single key ∧ path <+: keyParts key

/-- An object that a dotted key passes in the expansion of a document, to go on with one of the keys
that the object has. -/
def Passed (spec : Value) (m : Document) : Prop :=
  ∃ d path key, Met spec d ∧ Leads d (path ++ [key]) ∧ key ∈ Dict.keys m ∧
    (Value.object (expand d)).LeadsTo path (.object m)

/-- From the specification, or an object that holds no operator or is passed by a dotted key. -/
def Origin (spec v : Value) : Prop :=
  v.Within spec ∨ ∃ m, v = .object m ∧ (hasOperator m = true → Passed spec m)

/-- All that keys lead to inside the value has its origin. -/
def Sourced (spec v : Value) : Prop := ∀ path u, v.LeadsTo path u → Origin spec u

variable {spec u v : Value} {d e m es whole : Document} {k : String} {p q rest : List String}

theorem Sourced.origin (h : Sourced spec v) : Origin spec v := h [] v (.here v)

theorem Sourced.member (h : Sourced spec (.object m)) (hk : (k, v) ∈ m) : Sourced spec v :=
  fun path u hu => h (k :: path) u (.step hk hu)

theorem sourced_of_within (h : v.Within spec) : Sourced spec v :=
  fun _ _ hu => Or.inl (hu.within.trans h)

theorem Origin.within (h : Origin spec v) (hv : v.isObject = false) : v.Within spec := by
  rcases h with h | ⟨m, rfl, -⟩
  · exact h
  · cases hv

theorem mem_keys_placeAt {s : String} :
    s ∈ Dict.keys (placeAt (k :: rest) v d) ↔ s = k ∨ s ∈ Dict.keys d := by
  cases rest with
  | nil => exact Dict.mem_keys_insert
  | cons l rest => exact Dict.mem_keys_insert

theorem leadsTo_of_within (hp : p ≠ []) (h : (Value.object (within k d)).LeadsTo p u) :
    (Value.object d).LeadsTo (k :: p) u := by
  unfold within at h
  cases hg : Dict.get? k d with
  | none =>
    rw [hg] at h
    exact absurd h (Value.not_leadsTo_empty hp)
  | some w =>
    rw [hg] at h
    cases w with
    | object inner => exact .step (Dict.mem_of_get? hg) h
    | null | bool | number | string | array => exact absurd h (Value.not_leadsTo_empty hp)

/-- Where a path leads once a value is placed: to that value or into it, to what was there, or to an
object on the way to the value. -/
theorem leadsTo_placeAt (hq : q ≠ []) (h : (Value.object (placeAt q v d)).LeadsTo p u) :
    (∃ r, p = q ++ r ∧ v.LeadsTo r u) ∨ (p ≠ [] ∧ (Value.object d).LeadsTo p u) ∨
      ∃ s m, p ++ [s] <+: q ∧ u = .object m ∧ s ∈ Dict.keys m := by
  induction q generalizing d p with
  | nil => exact absurd rfl hq
  | cons k rest ih =>
    cases p with
    | nil =>
      obtain rfl := Value.leadsTo_nil_iff.1 h
      refine Or.inr (Or.inr ⟨k, _, List.prefix_append [k] rest, rfl, ?_⟩)
      exact mem_keys_placeAt.2 (Or.inl rfl)
    | cons l p =>
      cases rest with
      | nil =>
        obtain ⟨w, hw, hu⟩ := Value.leadsTo_cons_iff.1 h
        rcases Dict.mem_insert hw with hw | hw
        · obtain ⟨rfl, rfl⟩ := Prod.mk.inj hw
          exact Or.inl ⟨p, rfl, hu⟩
        · exact Or.inr (Or.inl ⟨List.cons_ne_nil l p, .step hw hu⟩)
      | cons k' rest =>
        rw [placeAt_cons_cons] at h
        obtain ⟨w, hw, hu⟩ := Value.leadsTo_cons_iff.1 h
        rcases Dict.mem_insert hw with hw | hw
        · obtain ⟨rfl, rfl⟩ := Prod.mk.inj hw
          rcases ih (List.cons_ne_nil k' rest) hu with ⟨r, rfl, hr⟩ | ⟨hp, hold⟩ | ⟨s, m, hs, hm⟩
          · exact Or.inl ⟨r, rfl, hr⟩
          · exact Or.inr (Or.inl ⟨List.cons_ne_nil l p, leadsTo_of_within hp hold⟩)
          · exact Or.inr (Or.inr ⟨s, m, (List.prefix_cons_inj l).2 hs, hm⟩)
        · exact Or.inr (Or.inl ⟨List.cons_ne_nil l p, .step hw hu⟩)

theorem leads_of_prefix_keyPath {s : String} (hp : p ≠ []) (h : p ++ [s] <+: keyPath k)
    (hk : k ∈ Dict.keys d) : Leads d (p ++ [s]) := by
  unfold keyPath at h
  by_cases hs : Single k
  · rw [if_pos hs] at h
    have hlength := h.length_le
    have hpos : 0 < p.length := List.length_pos_iff.2 hp
    simp only [List.length_append, List.length_singleton] at hlength
    omega
  · rw [if_neg hs] at h
    exact ⟨k, hk, hs, h⟩

/-- An object through which a dotted key of the document leads on the path. -/
def OnWay (d : Document) (path : List String) (v : Value) : Prop :=
  ∃ s m, Leads d (path ++ [s]) ∧ v = .object m ∧ s ∈ Dict.keys m

/-- Placing entries of a document, one after the other, leaves nothing but what has its origin and
what is on the way of a dotted key. -/
theorem origin_expandInto
    (hd : ∀ p u, p ≠ [] → (Value.object d).LeadsTo p u → Origin spec u ∨ OnWay whole p u)
    (hes : ∀ e ∈ es, e.1 ∈ Dict.keys whole ∧ Sourced spec (expandValue e.2)) :
    ∀ p u, p ≠ [] → (Value.object (expandInto d es)).LeadsTo p u →
      Origin spec u ∨ OnWay whole p u := by
  induction es generalizing d with
  | nil => exact hd
  | cons e es ih =>
    rw [List.forall_mem_cons] at hes
    rw [expandInto]
    refine ih ?_ hes.2
    intro p u hp hu
    rw [place_eq_placeAt] at hu
    rcases leadsTo_placeAt (keyPath_ne_nil e.1) hu with ⟨r, -, hr⟩ | ⟨-, hold⟩ | ⟨s, m, hs, hm⟩
    · exact Or.inl (hes.1.2 r u hr)
    · exact hd p u hp hold
    · exact Or.inr ⟨s, m, leads_of_prefix_keyPath hp hs hes.1.1, hm⟩

theorem OnWay.origin (h : OnWay d p v) (hd : Met spec d)
    (hv : (Value.object (expand d)).LeadsTo p v) : Origin spec v := by
  obtain ⟨s, m, hleads, rfl, hs⟩ := h
  exact Or.inr ⟨m, rfl, fun _ => ⟨d, p, s, hd, hleads, hs, hv⟩⟩

theorem origin_expand (hd : Met spec d) (h : ∀ e ∈ d, Sourced spec (expandValue e.2)) (hp : p ≠ [])
    (hu : (Value.object (expand d)).LeadsTo p u) : Origin spec u := by
  have hnil : ∀ p u, p ≠ [] → (Value.object []).LeadsTo p u → Origin spec u ∨ OnWay d p u :=
    fun p u hp hu => absurd hu (Value.not_leadsTo_empty hp)
  have hes : ∀ e ∈ d, e.1 ∈ Dict.keys d ∧ Sourced spec (expandValue e.2) :=
    fun e he => ⟨List.mem_map_of_mem he, h e he⟩
  rcases origin_expandInto hnil hes p u hp hu with h | h
  · exact h
  · exact h.origin hd hu

theorem exists_keyPath_of_mem_keys_expandInto {s : String}
    (h : s ∈ Dict.keys (expandInto d es)) :
    s ∈ Dict.keys d ∨ ∃ key ∈ Dict.keys es, [s] <+: keyPath key := by
  induction es generalizing d with
  | nil => exact Or.inl h
  | cons e es ih =>
    rw [expandInto, place_eq_placeAt] at h
    rcases ih h with h | ⟨key, hkey, hs⟩
    · obtain ⟨k, rest, hk⟩ := List.exists_cons_of_ne_nil (keyPath_ne_nil e.1)
      rw [hk] at h
      rcases mem_keys_placeAt.1 h with rfl | h
      · exact Or.inr ⟨e.1, List.mem_cons_self, hk ▸ List.prefix_append [s] rest⟩
      · exact Or.inl h
    · exact Or.inr ⟨key, List.mem_cons_of_mem _ hkey, hs⟩

theorem passed_expand (hd : Met spec d) (hplain : hasOperator d = false)
    (h : hasOperator (expand d) = true) : Passed spec (expand d) := by
  rw [hasOperator_eq] at h hplain
  obtain ⟨s, hs, hop⟩ := List.any_eq_true.1 h
  refine ⟨d, [], s, hd, ?_, hs, .here _⟩
  obtain ⟨key, hkey, hpath⟩ :=
    (exists_keyPath_of_mem_keys_expandInto hs).resolve_left List.not_mem_nil
  unfold keyPath at hpath
  by_cases hsingle : Single key
  · rw [if_pos hsingle] at hpath
    obtain rfl : s = key := by simpa using hpath
    exact absurd hop (List.any_eq_false.1 hplain s hkey)
  · rw [if_neg hsingle] at hpath
    exact ⟨key, hkey, hsingle, hpath⟩

/-- A value of which nothing has another origin, and whose documents may all be expanded. -/
structure Held (spec v : Value) : Prop where
  sourced : Sourced spec v
  met : ∀ d, (Value.object d).Within v → Met spec d

theorem held_of_within (h : v.Within spec) : Held spec v where
  sourced := sourced_of_within h
  met _ hd := .written (hd.trans h)

theorem Held.member (h : Held spec (.object m)) (hk : (k, v) ∈ m) : Held spec v where
  sourced := h.sourced.member hk
  met d hd := h.met d (.member hd hk)

theorem Held.item {x : Value} {xs : List Value} (h : Held spec (.array xs)) (hx : x ∈ xs) :
    x.Within spec :=
  (Value.Within.item (.refl x) hx).trans (h.sourced.origin.within rfl)

theorem Held.expandValue (h : Held spec v) : Sourced spec (expandValue v) := by
  induction v with
  | object ms ih =>
    rw [Filter.expandValue]
    split
    · exact h.sourced
    · rename_i hplain
      have hms : Met spec ms := h.met ms (.refl _)
      have hvalues : ∀ e ∈ ms, Sourced spec (Filter.expandValue e.2) :=
        fun e he => ih e he (h.member he)
      intro p u hu
      cases p with
      | nil =>
        obtain rfl := Value.leadsTo_nil_iff.1 hu
        exact Or.inr ⟨_, rfl, passed_expand hms (Bool.eq_false_iff.2 hplain)⟩
      | cons k p => exact origin_expand hms hvalues (List.cons_ne_nil k p) hu
  | null | bool | number | string | array => exact h.sourced

theorem Held.of_mem_expand (h : Held spec (.object d)) (hk : (k, v) ∈ expand d) : Held spec v where
  sourced p _ hu :=
    origin_expand (h.met d (.refl _)) (fun _ he => (h.member he).expandValue)
      (List.cons_ne_nil k p) (.step hk hu)
  met _ he := .expanded (h.met d (.refl _)) (.member he hk)

end NestedData.Filter
