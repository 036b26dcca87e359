import NestedData.Proofs.Json.Parts
import NestedData.Proofs.Tree.Sameness
import NestedData.Proofs.Tree.Structure
/-!
Trees rendered as values. A branch is rendered as a list just when its keys are the indexes of a
list, in their order. So a value comes back from its tree unless there is an empty list in it, or an
object with such keys; and trees that are the same but for the order of children are rendered as the
same value unless that order makes a list of a branch in one of them only.
-/

namespace NestedData

namespace Tree

variable {a b t u : Tree} {v : Value} {cs ds : List (String × Tree)} {ms : List (String × Value)}
  {key : String} {path : List String}

def Indexes (keys : List String) : Prop :=
  keys ≠ [] ∧ keys = (List.range keys.length).map indexKey

instance (keys : List String) : Decidable (Indexes keys) := inferInstanceAs (Decidable (_ ∧ _))

theorem countsFrom_iff {n : ℕ} {keys : List String} :
    countsFrom n keys = true ↔ keys = (List.range' n keys.length).map indexKey := by
  induction keys generalizing n with
  | nil => simp [countsFrom]
  | cons k keys ih =>
    rw [countsFrom, Bool.and_eq_true, decide_eq_true_eq, ih, List.length_cons, List.range'_succ,
      List.map_cons, List.cons.injEq]

theorem indexes_iff {keys : List String} :
    Indexes keys ↔ keys ≠ [] ∧ countsFrom 0 keys = true := by
  rw [Indexes, countsFrom_iff, List.range_eq_range']

theorem isList_iff : isList cs = true ↔ Indexes (Dict.keys cs) := by
  rw [indexes_iff, isList, Bool.and_eq_true]
  simp [Dict.keys]

theorem unambiguous_iff :
    v.Unambiguous ↔ ¬ (v = .array [] ∨ ∃ ms, v = .object ms ∧ Indexes (Dict.keys ms)) := by
  cases v with
  | array xs => simp [Value.Unambiguous]
  | object ms =>
    have hkeys : ms = [] ↔ Dict.keys ms = [] := by simp [Dict.keys]
    simp [Value.Unambiguous, indexes_iff, hkeys, Classical.or_iff_not_imp_left]
  | null | bool | number | string => simp [Value.Unambiguous]

/-- A value that has changed on its way through a tree has changed for every reader: one that
disregards the order of members still tells the list from the object. -/
theorem everywhere_of_denotes (h : v.WellFormed) (hv : (ofValue [] v).denotes v = true) :
    v.Everywhere Value.Unambiguous := by
  induction v with
  | array xs ih =>
    rw [Value.wellFormed_array] at h
    by_cases hxs : xs = []
    · subst hxs
      cases hv
    · rw [denotes, toValue_ofValue_array [] hxs, Value.same, Value.alike_array,
        List.forall₂_map_left_iff, List.forall₂_same] at hv
      exact .array hxs fun x hx => ih x hx (h x hx) (hv x hx)
  | object ms ih =>
    obtain ⟨hdistinct, hms⟩ := Value.wellFormed_object.1 h
    by_cases hlist : (Value.object ms).Unambiguous
    · rw [denotes, toValue_ofValue_object hdistinct hlist, Value.same, Value.alike_object] at hv
      refine .object hlist fun e he => ih e he (hms e he) ?_
      obtain ⟨y, hy, hey⟩ := hv.2 _ (List.mem_map_of_mem he)
      rw [Dict.get?_of_mem hdistinct he] at hy
      obtain rfl := Option.some.inj hy
      exact hey
    · rw [unambiguous_object, Bool.not_eq_false] at hlist
      rw [denotes, ofValue_nil_of_distinct hdistinct, toValue, if_pos hlist] at hv
      cases hv
  | null | bool | number | string => exact .scalar rfl rfl trivial

/-- A value comes back from its tree, members in their order, just when nothing in it, at any level,
is an empty list or an object whose keys are the indexes of a list in their order. Short of that it
does not come back even up to the order of members. -/
theorem value_survives_iff (h : v.WellFormed) :
    ((ofValue [] v).toValue = v ↔
      ¬ ∃ u : Value, u.Within v ∧ (u = .array [] ∨ ∃ ms, u = .object ms ∧ Indexes (Dict.keys ms))) ∧
    ((ofValue [] v).denotes v = true ↔ (ofValue [] v).toValue = v) := by
  have hback := toValue_ofValue_iff h
  constructor
  · rw [hback, Value.everywhere_iff_within]
    simp only [unambiguous_iff, not_exists, not_and]
  · constructor
    · exact fun hv => hback.2 (everywhere_of_denotes h hv)
    · intro hv
      rw [denotes, hv]
      exact Value.same_refl h

/-- Keys that only look like the indexes of a list, and an object deep inside that has such keys. -/
theorem value_survives_iff_nested :
    let v : Value := .object [("", .array [.object [("00", .null), ("0", .null)]]),
      ("k", .object [("1", .bool true), ("0", .object [])])]
    let w : Value := .object [("k", .array [.null, .object [("0", .null), ("1", .array [.null])]])]
    v.WellFormed ∧ w.WellFormed ∧
      (¬ ∃ u : Value, u.Within v ∧
        (u = .array [] ∨ ∃ ms, u = .object ms ∧ Indexes (Dict.keys ms))) ∧
      (ofValue [] w).toValue ≠ w ∧ (ofValue [] w).denotes w = false := by
  intro v w
  have hv : v.WellFormed := by decide
  have hw : w.WellFormed := by decide
  have hindexes : ¬ (ofValue [] w).toValue = w := by
    rw [(value_survives_iff hw).1, not_not]
    refine ⟨_, .member (.item (.refl _) (List.mem_cons_of_mem _ List.mem_cons_self))
      List.mem_cons_self, Or.inr ⟨_, rfl, by decide⟩⟩
  refine ⟨hv, hw, (value_survives_iff hv).1.1 rfl, hindexes, ?_⟩
  exact Bool.eq_false_iff.2 fun h => hindexes ((value_survives_iff hw).2.1 h)

/-- The branch at the path has the keys of a list, in their order. -/
def ListAt (t : Tree) (path : List String) : Prop :=
  ∃ cs, t.find? path = some (.branch cs) ∧ Indexes (Dict.keys cs)

def SameLists (a b : Tree) : Prop := ∀ path, a.ListAt path ↔ b.ListAt path

theorem listAt_nil : (branch cs).ListAt [] ↔ isList cs = true := by
  simp [ListAt, isList_iff]

theorem listAt_cons : t.ListAt (key :: path) ↔ ∃ c, t.child? key = some c ∧ c.ListAt path := by
  unfold ListAt
  rw [find?_cons]
  cases t.child? key <;> simp

theorem not_listAt_leaf : ¬ (leaf v).ListAt path := by
  cases path with
  | nil => simp [ListAt]
  | cons key path => simp [listAt_cons]

def ChildrenRelated (R : Tree → Tree → Prop) (cs ds : List (String × Tree)) : Prop :=
  ∀ key t u, Dict.get? key cs = some t → Dict.get? key ds = some u → R t u

/-- Branches with the same children have lists at the same paths when both or neither is a list and
the children have. -/
theorem sameLists_branch (h : ∀ key, SameChild (Dict.get? key cs) (Dict.get? key ds)) :
    (branch cs).SameLists (branch ds) ↔
      isList cs = isList ds ∧ ChildrenRelated SameLists cs ds := by
  constructor
  · intro hlists
    refine ⟨?_, fun key t u ht hu path => ?_⟩
    · have hhere := hlists []
      rw [listAt_nil, listAt_nil] at hhere
      exact Bool.eq_iff_iff.2 hhere
    · have hbelow := hlists (key :: path)
      simpa [listAt_cons, ht, hu] using hbelow
  · rintro ⟨hhere, hbelow⟩ path
    cases path with
    | nil => rw [listAt_nil, listAt_nil, hhere]
    | cons key path =>
      rw [listAt_cons, listAt_cons, child?_branch, child?_branch]
      have hkey := h key
      cases ht : Dict.get? key cs with
      | none =>
        rw [hkey.eq_none_iff.1 ht]
      | some t =>
        rw [ht] at hkey
        obtain ⟨u, hu, -⟩ := hkey.exists_same
        simpa [hu] using hbelow key t u ht hu path

theorem forall₂_iff_childrenRelated {R : Tree → Tree → Prop} (hc : Dict.Distinct cs)
    (hkeys : Dict.keys cs = Dict.keys ds) :
    List.Forall₂ (fun e f => R e.2 f.2) cs ds ↔ ChildrenRelated R cs ds := by
  induction cs generalizing ds with
  | nil =>
    have hds : ds = [] := by simpa [Dict.keys] using hkeys.symm
    simp [hds, ChildrenRelated]
  | cons e cs ih =>
    cases ds with
    | nil => simp [Dict.keys] at hkeys
    | cons f ds =>
      obtain ⟨k, t⟩ := e
      obtain ⟨l, u⟩ := f
      simp only [Dict.keys, List.map_cons, List.cons.injEq] at hkeys
      obtain ⟨rfl, hkeys⟩ := hkeys
      rw [List.forall₂_cons, ih hc.of_cons hkeys]
      constructor
      · rintro ⟨hhere, hrest⟩ key x y hx hy
        by_cases hk : k = key
        · simp only [Dict.get?, hk, if_true, Option.some.injEq] at hx hy
          rwa [← hx, ← hy]
        · simp only [Dict.get?, hk, if_false] at hx hy
          exact hrest key x y hx hy
      · intro h
        refine ⟨h k t u (by simp [Dict.get?]) (by simp [Dict.get?]), fun key x y hx hy => ?_⟩
        have hk : k ≠ key := (hc.ne_of_mem (Dict.mem_of_get? hx)).symm
        refine h key x y ?_ ?_
        · simpa [Dict.get?, hk] using hx
        · simpa [Dict.get?, hk] using hy

/-- The two are rendered as values that differ in the order of members at most. -/
def SameValue (a b : Tree) : Prop := a.toValue.same b.toValue = true

theorem childValues_same (hc : Dict.Distinct cs) (hkeys : Dict.keys cs = Dict.keys ds) :
    (Value.array (childValues cs)).same (.array (childValues ds)) = true ↔
      ChildrenRelated SameValue cs ds := by
  rw [Value.same, Value.alike_array, childValues_eq_map, childValues_eq_map,
    List.forall₂_map_left_iff, List.forall₂_map_right_iff]
  exact forall₂_iff_childrenRelated (R := SameValue) hc hkeys

theorem childMembers_same (hc : Dict.Distinct cs) (hlength : cs.length = ds.length)
    (h : ∀ key, SameChild (Dict.get? key cs) (Dict.get? key ds)) :
    (Value.object (childMembers cs)).same (.object (childMembers ds)) = true ↔
      ChildrenRelated SameValue cs ds := by
  rw [Value.same, Value.alike_object, childMembers_eq_map, childMembers_eq_map]
  constructor
  · rintro ⟨-, hms⟩ key t u ht hu
    obtain ⟨y, hy, hty⟩ := hms (key, t.toValue) (List.mem_map.2 ⟨_, Dict.mem_of_get? ht, rfl⟩)
    rw [Dict.get?_map, hu] at hy
    obtain rfl := Option.some.inj hy
    exact hty
  · intro hvalues
    refine ⟨by simpa using hlength, List.forall_mem_map.2 fun e he => ?_⟩
    have ht : Dict.get? e.1 cs = some e.2 := Dict.get?_of_mem hc he
    have hchild := h e.1
    rw [ht] at hchild
    obtain ⟨u, hu, -⟩ := hchild.exists_same
    refine ⟨u.toValue, ?_, hvalues e.1 e.2 u ht hu⟩
    rw [Dict.get?_map, hu]
    rfl

theorem sameValue_branch (hc : Dict.Distinct cs) (hlength : cs.length = ds.length)
    (h : ∀ key, SameChild (Dict.get? key cs) (Dict.get? key ds)) :
    (branch cs).SameValue (branch ds) ↔
      isList cs = isList ds ∧ ChildrenRelated SameValue cs ds := by
  rw [SameValue, toValue, toValue]
  cases hcs : isList cs with
  | true =>
    cases hds : isList ds with
    | true =>
      have hkeys : Dict.keys cs = Dict.keys ds := by
        rw [(isList_iff.1 hcs).2, (isList_iff.1 hds).2]
        simp [Dict.keys, hlength]
      simpa using childValues_same hc hkeys
    | false => simp [Value.same, Value.alike]
  | false =>
    cases hds : isList ds with
    | true => simp [Value.same, Value.alike]
    | false => simpa using childMembers_same hc hlength h

theorem Distinct.wellFormed_toValue (h : t.Distinct) : t.toValue.WellFormed := by
  induction h with
  | leaf value => exact value
  | @branch cs keys below ih =>
    rw [toValue]
    split
    · rw [childValues_eq_map, Value.wellFormed_array]
      exact List.forall_mem_map.2 ih
    · rw [childMembers_eq_map, Value.wellFormed_object]
      exact ⟨keys.map _, List.forall_mem_map.2 ih⟩

theorem sameValue_iff (ha : a.Distinct) (hb : b.Distinct) (h : a.same b = true) :
    a.SameValue b ↔ a.SameLists b := by
  induction a generalizing b with
  | leaf v =>
    cases b with
    | leaf w =>
      rw [same] at h
      refine iff_of_true h fun path => ?_
      exact iff_of_false not_listAt_leaf not_listAt_leaf
    | branch ds => cases h
  | branch cs ih =>
    cases b with
    | leaf w => cases h
    | branch ds =>
      obtain ⟨hc, hcs⟩ := distinct_branch.1 ha
      obtain ⟨hd, hds⟩ := distinct_branch.1 hb
      have hchild := (same_branch_iff hc hd).1 h
      rw [sameValue_branch hc (same_branch.1 h).1 hchild, sameLists_branch hchild]
      refine and_congr_right fun _ => ?_
      refine forall_congr' fun key => forall_congr' fun t => forall_congr' fun u => ?_
      refine imp_congr_right fun ht => imp_congr_right fun hu => ?_
      have hct := Dict.mem_of_get? ht
      have hdu := Dict.mem_of_get? hu
      have htu := hchild key
      rw [ht, hu] at htu
      cases htu with
      | some hsame => exact ih _ hct (hcs _ hct) (hds _ hdu) hsame

/-- Trees that repeat no key and are the same but for the order of children are rendered as the same
value, but for the order of members, just when they have lists at the same paths; and just then they
denote the same values. -/
theorem rendered_alike_iff (ha : a.Distinct) (hb : b.Distinct) (h : a.same b = true) :
    (a.toValue.same b.toValue = true ↔ ∀ path, a.ListAt path ↔ b.ListAt path) ∧
    ((∀ v : Value, v.WellFormed → a.denotes v = b.denotes v) ↔
      ∀ path, a.ListAt path ↔ b.ListAt path) := by
  have hlists := sameValue_iff ha hb h
  have hav := ha.wellFormed_toValue
  have hbv := hb.wellFormed_toValue
  refine ⟨hlists, Iff.trans ?_ hlists⟩
  constructor
  · intro hall
    have hdenotes : a.denotes b.toValue = true :=
      (hall b.toValue hbv).trans (Value.same_refl hbv)
    exact hdenotes
  · intro hsame v _
    refine Bool.eq_iff_iff.2 ⟨fun hv => ?_, fun hv => ?_⟩
    · exact Value.same_trans (Value.same_symm hav hbv hsame) hv
    · exact Value.same_trans hsame hv

/-- Children in another order at two levels, beside a list and beside the keys of a list out of
order. -/
theorem rendered_alike_iff_reordered :
    let items : Tree := .branch [("0", .leaf .null), ("1", .leaf (.bool true))]
    let a : Tree := .branch [("l", items),
      ("k", .branch [("1", .leaf .null), ("0", .branch []), ("x", items)])]
    let b : Tree := .branch [("k", .branch [("x", items), ("1", .leaf .null), ("0", .branch [])]),
      ("l", items)]
    a.Distinct ∧ b.Distinct ∧ a.same b = true ∧ (∀ path, a.ListAt path ↔ b.ListAt path) ∧
      ∀ v : Value, v.WellFormed → a.denotes v = b.denotes v := by
  intro items a b
  have ha : a.Distinct := by
    simp [a, items, distinct_branch, distinct_leaf, Dict.Distinct, Dict.keys, Value.WellFormed]
  have hb : b.Distinct := by
    simp [b, items, distinct_branch, distinct_leaf, Dict.Distinct, Dict.keys, Value.WellFormed]
  obtain ⟨hrendered, hdenotes⟩ := rendered_alike_iff ha hb rfl
  have hlists := hrendered.1 rfl
  exact ⟨ha, hb, rfl, hlists, hdenotes.2 hlists⟩

/-- Two items and the same two in the other order: one tree as trees go, a list and an object as
values. -/
theorem same_trees_rendered_apart :
    let v : Value := .object [("0", .string "x"), ("1", .string "y")]
    let u : Value := .object [("1", .string "y"), ("0", .string "x")]
    let a := ofValue ["."] v
    let b := ofValue ["."] u
    a.same b = true ∧ a.toValue.same b.toValue = false ∧ b.denotes u = true ∧
      a.denotes u = false := by
  refine ⟨rfl, rfl, rfl, rfl⟩

end Tree
end NestedData
