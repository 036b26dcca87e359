import NestedData.Proofs.Json.Values
/-!
Values inside values: at any depth, below arrays and objects, or at the end of a path of keys.
-/

namespace NestedData.Value

/-- The value is the whole, or stands somewhere inside it. -/
inductive Within : Value → Value → Prop where
  | refl (v : Value) : Within v v
  | item {v x : Value} {xs : List Value} (h : Within v x) (hx : x ∈ xs) : Within v (.array xs)
  | member {v : Value} {e : String × Value} {ms : List (String × Value)} (h : Within v e.2)
      (he : e ∈ ms) : Within v (.object ms)

variable {k : String} {p q : List String} {u v w : Value} {ms : List (String × Value)}

theorem Within.trans (huv : u.Within v) (hvw : v.Within w) : u.Within w := by
  induction hvw with
  | refl => exact huv
  | item _ hx ih => exact .item ih hx
  | member _ he ih => exact .member ih he

theorem within_scalar_iff (hitems : u.items? = none) (hmembers : u.members? = none) :
    v.Within u ↔ v = u := by
  constructor
  · intro h
    cases h with
    | refl => rfl
    | item => cases hitems
    | member => cases hmembers
  · rintro rfl
    exact .refl v

theorem within_object_iff : v.Within (.object ms) ↔ v = .object ms ∨ ∃ e ∈ ms, v.Within e.2 := by
  constructor
  · intro h
    cases h with
    | refl => exact Or.inl rfl
    | member h he => exact Or.inr ⟨_, he, h⟩
  · rintro (rfl | ⟨e, he, h⟩)
    · exact .refl _
    · exact .member h he

theorem Everywhere.within {P : Value → Prop} (hw : w.Everywhere P) (h : v.Within w) :
    v.Everywhere P := by
  induction h with
  | refl => exact hw
  | item _ hx ih => exact ih ((Everywhere.array_iff.1 hw).2 _ hx)
  | member _ he ih => exact ih ((Everywhere.object_iff.1 hw).2 _ he)

theorem everywhere_iff_within {P : Value → Prop} : v.Everywhere P ↔ ∀ u, u.Within v → P u := by
  constructor
  · exact fun h u hu => (h.within hu).here
  · intro h
    have here : P v := h v (.refl v)
    induction v with
    | array xs ih =>
      refine .array here fun x hx => ?_
      have hx' : ∀ u, u.Within x → P u := fun u hu => h u (.item hu hx)
      exact ih x hx hx' (hx' x (.refl x))
    | object ms ih =>
      refine .object here fun e he => ?_
      have he' : ∀ u, u.Within e.2 → P u := fun u hu => h u (.member hu he)
      exact ih e he he' (he' e.2 (.refl e.2))
    | null | bool | number | string => exact .scalar rfl rfl here

/-- The keys of the path, one after the other, lead from the value to the one inside it. -/
inductive LeadsTo : List String → Value → Value → Prop where
  | here (v : Value) : LeadsTo [] v v
  | step {k : String} {p : List String} {u v : Value} {ms : List (String × Value)}
      (hk : (k, u) ∈ ms) (h : LeadsTo p u v) : LeadsTo (k :: p) (.object ms) v

theorem leadsTo_nil_iff : LeadsTo [] u v ↔ u = v := by
  constructor
  · rintro ⟨⟩
    rfl
  · rintro rfl
    exact .here u

theorem leadsTo_cons_iff : LeadsTo (k :: p) (.object ms) v ↔ ∃ u, (k, u) ∈ ms ∧ LeadsTo p u v := by
  constructor
  · intro h
    cases h with
    | step hk h => exact ⟨_, hk, h⟩
  · rintro ⟨u, hk, h⟩
    exact .step hk h

theorem not_leadsTo_empty (hp : p ≠ []) : ¬ LeadsTo p (.object []) v := by
  intro h
  cases h with
  | here => exact hp rfl
  | step hk _ => exact List.not_mem_nil hk

theorem LeadsTo.trans (huv : LeadsTo p u v) (hvw : LeadsTo q v w) : LeadsTo (p ++ q) u w := by
  induction huv with
  | here => exact hvw
  | step hk _ ih => exact .step hk (ih hvw)

theorem LeadsTo.within (h : LeadsTo p u v) : v.Within u := by
  induction h with
  | here v => exact .refl v
  | step hk _ ih => exact .member ih hk

end NestedData.Value
