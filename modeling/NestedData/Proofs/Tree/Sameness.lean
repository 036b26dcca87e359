import NestedData.Proofs.Json.Values
import NestedData.Proofs.Number.Comparing
import NestedData.Proofs.Tree.Shape
import NestedData.Proofs.Tree.Writing
/-!
Trees that are the same but for the order of children. Where no key is repeated, two branches are
the same exactly when each key leads to the same child in both or to none in either. So children
that are the same leave the same branch when they are written to one key, and any two children do in
either order when they are written to different keys.
-/

namespace NestedData

namespace Number

variable {a b c : Number}

theorem same_refl (a : Number) : a.same a = true := by
  cases a with
  | integer n => exact decide_eq_true rfl
  | binary x => exact decide_eq_true (order_self (.binary x))

theorem same_symm (h : a.same b = true) : b.same a = true := by
  match a, b with
  | .integer m, .integer n => exact decide_eq_true (of_decide_eq_true h).symm
  | .binary x, .binary y =>
    have hunits := Binary64.order_eq_iff.1 (of_decide_eq_true h)
    exact decide_eq_true (Binary64.order_eq_iff.2 hunits.symm)
  | .integer _, .binary _ | .binary _, .integer _ => cases h

theorem same_trans (hab : a.same b = true) (hbc : b.same c = true) : a.same c = true := by
  match a, b, c with
  | .integer l, .integer m, .integer n =>
    exact decide_eq_true ((of_decide_eq_true hab).trans (of_decide_eq_true hbc))
  | .binary x, .binary y, .binary z =>
    exact decide_eq_true (order_eq_trans (of_decide_eq_true hab) (of_decide_eq_true hbc))
  | .integer _, .integer _, .binary _ | .binary _, .binary _, .integer _ => cases hbc
  | .integer _, .binary _, _ | .binary _, .integer _, _ => cases hab

end Number

namespace Value

variable {u v w : Value}

theorem same_refl (hv : v.WellFormed) : v.same v = true := alike_refl Number.same_refl hv

theorem same_symm (hu : u.WellFormed) (hv : v.WellFormed) (h : u.same v = true) :
    v.same u = true := alike_symm (fun _ _ => Number.same_symm) hu hv h

theorem same_trans (huv : u.same v = true) (hvw : v.same w = true) : u.same w = true := by
  have htrans (a b c : Number) (hab : a.same b = true) (hbc : b.same c = true) :
      a.same c = true := Number.same_trans hab hbc
  exact alike_comp htrans huv hvw

end Value

namespace Tree

variable {a b node t : Tree} {v : Value} {cs ds : List (String × Tree)} {delimiters : List Char}

/-- No key is repeated, neither in a branch nor in an object that a leaf holds. -/
inductive Distinct : Tree → Prop where
  | leaf {v : Value} (value : v.WellFormed) : Distinct (.leaf v)
  | branch {cs : List (String × Tree)} (keys : Dict.Distinct cs)
      (below : ∀ e ∈ cs, Distinct e.2) : Distinct (.branch cs)

theorem distinct_leaf : (leaf v).Distinct ↔ v.WellFormed := by
  constructor
  · intro h
    cases h with
    | leaf value => exact value
  · exact .leaf

theorem distinct_branch : (branch cs).Distinct ↔ Dict.Distinct cs ∧ ∀ e ∈ cs, e.2.Distinct := by
  constructor
  · intro h
    cases h with
    | branch keys below => exact ⟨keys, below⟩
  · rintro ⟨keys, below⟩
    exact .branch keys below

theorem Normal.distinct (h : Normal delimiters t) : t.Distinct := by
  induction t with
  | leaf v =>
    have ha := h.atomic
    cases v with
    | array | object => exact ha.elim
    | null | bool | number | string => exact .leaf trivial
  | branch cs ih =>
    obtain ⟨hdistinct, hcs⟩ := normal_branch.1 h
    exact .branch hdistinct fun e he => ih e he (hcs e he).2

theorem same_branch : (branch cs).same (branch ds) = true ↔ cs.length = ds.length ∧
    ∀ e ∈ cs, ∃ u, Dict.get? e.1 ds = some u ∧ e.2.same u = true := by
  have hchildren : sameChildren cs ds = true ↔
      ∀ e ∈ cs, ∃ u, Dict.get? e.1 ds = some u ∧ e.2.same u = true := by
    induction cs with
    | nil => simp [sameChildren]
    | cons e cs ih =>
      rw [sameChildren, Bool.and_eq_true, ih, List.forall_mem_cons]
      refine and_congr_left fun _ => ?_
      cases Dict.get? e.1 ds <;> simp
  rw [same, Bool.and_eq_true, decide_eq_true_eq, hchildren]

/-- Both are missing, or both are there and the same. -/
def SameChild (o o' : Option Tree) : Prop := Option.Rel (fun t u => t.same u = true) o o'

theorem SameChild.eq_none_iff {o o' : Option Tree} (h : SameChild o o') : o = none ↔ o' = none := by
  cases h with
  | some => simp
  | none => exact Iff.rfl

theorem SameChild.exists_same {o : Option Tree} (h : SameChild (some t) o) :
    ∃ u, o = some u ∧ t.same u = true := by
  cases h with
  | some hu => exact ⟨_, rfl, hu⟩

/-- Branches are the same when every key leads to the same child in both, or to none in either. -/
theorem same_branch_iff (hc : Dict.Distinct cs) (hd : Dict.Distinct ds) :
    (branch cs).same (branch ds) = true ↔
      ∀ key, SameChild (Dict.get? key cs) (Dict.get? key ds) := by
  rw [same_branch]
  constructor
  · rintro ⟨hlength, h⟩ key
    cases hkey : Dict.get? key cs with
    | some t =>
      obtain ⟨u, hu, htu⟩ := h (key, t) (Dict.mem_of_get? hkey)
      rw [hu]
      exact .some htu
    | none =>
      have hsub : Dict.keys cs ⊆ Dict.keys ds := by
        intro k hk
        obtain ⟨e, he, rfl⟩ := List.mem_map.1 hk
        obtain ⟨u, hu, -⟩ := h e he
        exact List.mem_map.2 ⟨_, Dict.mem_of_get? hu, rfl⟩
      rw [Dict.get?_eq_none_iff, (Dict.keys_perm hc hlength hsub).mem_iff,
        ← Dict.get?_eq_none_iff] at hkey
      rw [hkey]
      exact .none
  · intro h
    have hkeys : (Dict.keys cs).Perm (Dict.keys ds) := by
      refine (List.perm_ext_iff_of_nodup hc hd).2 fun key => not_iff_not.1 ?_
      rw [← Dict.get?_eq_none_iff, ← Dict.get?_eq_none_iff]
      exact (h key).eq_none_iff
    refine ⟨by simpa [Dict.keys] using hkeys.length_eq, fun e he => ?_⟩
    have hchild := h e.1
    rw [Dict.get?_of_mem hc he] at hchild
    exact hchild.exists_same

theorem same_refl (h : t.Distinct) : t.same t = true := by
  induction h with
  | leaf value =>
    rw [same]
    exact Value.same_refl value
  | branch keys below ih =>
    refine same_branch.2 ⟨rfl, fun e he => ?_⟩
    exact ⟨e.2, Dict.get?_of_mem keys he, ih e he⟩

theorem SameChild.refl (hcs : ∀ e ∈ cs, e.2.Distinct) (key : String) :
    SameChild (Dict.get? key cs) (Dict.get? key cs) := by
  cases hkey : Dict.get? key cs with
  | none => exact .none
  | some t => exact .some (same_refl (hcs _ (Dict.mem_of_get? hkey)))

theorem Distinct.children (h : t.Distinct) :
    Dict.Distinct t.children ∧ ∀ e ∈ t.children, e.2.Distinct := by
  cases h with
  | leaf => exact ⟨List.nodup_nil, nofun⟩
  | branch keys below => exact ⟨keys, below⟩

theorem Distinct.child (h : t.Distinct) (key : String) : ((t.child? key).getD empty).Distinct := by
  rw [← get?_children]
  cases hc : Dict.get? key t.children with
  | none => exact .branch List.nodup_nil nofun
  | some c => exact h.children.2 _ (Dict.mem_of_get? hc)

theorem Distinct.insert (hcs : (Tree.branch cs).Distinct) (hn : node.Distinct) (key : String) :
    (Tree.branch (Dict.insert key node cs)).Distinct := by
  obtain ⟨hkeys, hbelow⟩ := distinct_branch.1 hcs
  refine distinct_branch.2 ⟨hkeys.insert key node, fun e he => ?_⟩
  rcases Dict.mem_insert he with rfl | he
  · exact hn
  · exact hbelow e he

theorem Distinct.put (ht : t.Distinct) (hn : node.Distinct) (p : List String) :
    (t.put p node).Distinct := by
  induction p generalizing t with
  | nil => exact hn
  | cons key p ih =>
    rw [put_cons]
    exact (distinct_branch.2 ht.children).insert (ih (ht.child key)) key

theorem same_insert (hcs : (branch cs).Distinct) (h : a.same b = true) (key : String) :
    (branch (Dict.insert key a cs)).same (branch (Dict.insert key b cs)) = true := by
  obtain ⟨hkeys, hbelow⟩ := distinct_branch.1 hcs
  refine (same_branch_iff (hkeys.insert key a) (hkeys.insert key b)).2 fun k => ?_
  by_cases hk : k = key
  · subst hk
    rw [Dict.get?_insert_self, Dict.get?_insert_self]
    exact .some h
  · rw [Dict.get?_insert_of_ne hk, Dict.get?_insert_of_ne hk]
    exact .refl hbelow k

theorem same_insert_insert (hcs : (branch cs).Distinct) (ha : a.Distinct) (hb : b.Distinct)
    {k l : String} (hkl : k ≠ l) :
    (branch (Dict.insert k a (Dict.insert l b cs))).same
      (branch (Dict.insert l b (Dict.insert k a cs))) = true := by
  have hleft := distinct_branch.1 ((hcs.insert hb l).insert ha k)
  have hright := distinct_branch.1 ((hcs.insert ha k).insert hb l)
  refine (same_branch_iff hleft.1 hright.1).2 fun j => ?_
  rw [← Dict.get?_insert_comm hkl]
  exact .refl hleft.2 j

end Tree
end NestedData
