import NestedData.Proofs.Tree.Flattening
/-!
Flattening undone. The nodes at which flattening stops, put one after the other at their paths, make
the tree again, whatever the depth and whatever the keys; where no key is empty or holds the
delimiter, their paths can be read off the joined keys.
-/

namespace NestedData.Tree

variable {c : Char} {cs ds : List (String × Tree)} {depth : Depth} {p : List String} {t : Tree}

def putAll (nodes : List (List String × Tree)) (t : Tree) : Tree :=
  nodes.foldl (fun t e => t.put e.1 e.2) t

/-- The tree that entries with joined keys make, each put at the path that its key is cut into. -/
def unflatten (delimiter : String) (entries : List (String × Tree)) : Tree :=
  entries.foldl (fun t e => t.put ((PathSpec.text e.1).segments [delimiter]) e.2) empty

inductive EveryKey (P : String → Prop) : Tree → Prop where
  | leaf (v : Value) : EveryKey P (.leaf v)
  | branch {cs : List (String × Tree)} (keys : ∀ e ∈ cs, P e.1)
      (below : ∀ e ∈ cs, EveryKey P e.2) : EveryKey P (.branch cs)

theorem everyKey_branch {P : String → Prop} :
    (branch cs).EveryKey P ↔ (∀ e ∈ cs, P e.1) ∧ ∀ e ∈ cs, e.2.EveryKey P := by
  constructor
  · intro h
    cases h with
    | branch keys below => exact ⟨keys, below⟩
  · rintro ⟨keys, below⟩
    exact .branch keys below

theorem cuts_ne_nil (depth : Depth) (t : Tree) : t.cuts depth ≠ [] := by
  induction t generalizing depth with
  | leaf v => exact List.cons_ne_nil _ _
  | branch cs ih =>
    by_cases hwhole : depth = .levels 0 ∨ cs = []
    · rw [cuts_whole hwhole]
      exact List.cons_ne_nil _ _
    · rw [not_or] at hwhole
      obtain ⟨e, rest, rfl⟩ := List.exists_cons_of_ne_nil hwhole.2
      rw [cuts_branch hwhole.1 hwhole.2, cutsOf]
      simp [ih e List.mem_cons_self]

/-- Nodes below one child of a branch are put into that child. -/
theorem putAll_below {nodes : List (List String × Tree)} (h : nodes ≠ []) (key : String)
    (ds : List (String × Tree)) :
    putAll (nodes.map fun e => (key :: e.1, e.2)) (.branch ds) =
      .branch (Dict.insert key (putAll nodes ((Dict.get? key ds).getD empty)) ds) := by
  induction nodes generalizing ds with
  | nil => exact absurd rfl h
  | cons e nodes ih =>
    by_cases hn : nodes = []
    · subst hn
      rfl
    · have hfirst : (branch ds).put (key :: e.1) e.2 =
          .branch (Dict.insert key (((Dict.get? key ds).getD empty).put e.1 e.2) ds) := rfl
      rw [List.map_cons, putAll, List.foldl_cons, hfirst]
      refine (ih hn _).trans ?_
      rw [Dict.get?_insert_self, Dict.insert_insert_self]
      rfl

theorem putAll_cutsOf (hd : Dict.Distinct (ds ++ cs))
    (h : ∀ e ∈ cs, putAll (e.2.cuts depth.next) empty = e.2) :
    putAll (cutsOf depth cs) (.branch ds) = .branch (ds ++ cs) := by
  induction cs generalizing ds with
  | nil =>
    rw [List.append_nil]
    rfl
  | cons e cs ih =>
    obtain ⟨key, t⟩ := e
    rw [List.forall_mem_cons] at h
    have hkey : Dict.get? key ds = none := by
      rw [Dict.get?_eq_none_iff]
      intro hk
      rw [Dict.Distinct, Dict.keys, List.map_append] at hd
      exact (List.nodup_append.1 hd).2.2 key hk key List.mem_cons_self rfl
    have hhere : putAll ((t.cuts depth.next).map fun e => (key :: e.1, e.2)) (.branch ds) =
        .branch (ds ++ [(key, t)]) := by
      rw [putAll_below (cuts_ne_nil _ _), hkey, Option.getD_none, h.1,
        Dict.insert_of_get?_eq_none hkey]
    rw [cutsOf, putAll, List.foldl_append]
    refine (congrArg (putAll (cutsOf depth cs)) hhere).trans ?_
    rw [ih (by simpa using hd) h.2, List.append_assoc, List.singleton_append]

theorem putAll_cuts (hw : t.WellFormed) (depth : Depth) : putAll (t.cuts depth) empty = t := by
  induction t generalizing depth with
  | leaf v => rfl
  | branch cs ih =>
    obtain ⟨hd, hcs⟩ := wellFormed_branch.1 hw
    by_cases hwhole : depth = .levels 0 ∨ cs = []
    · rw [cuts_whole hwhole]
      rfl
    · rw [not_or] at hwhole
      rw [cuts_branch hwhole.1 hwhole.2]
      have hchildren : putAll (cutsOf depth cs) (.branch []) = .branch ([] ++ cs) :=
        putAll_cutsOf hd fun e he => ih e he (hcs e he) depth.next
      exact hchildren

theorem mem_cutsOf {x : List String × Tree} :
    x ∈ cutsOf depth cs ↔ ∃ e ∈ cs, ∃ y ∈ e.2.cuts depth.next, (e.1 :: y.1, y.2) = x := by
  simp only [cutsOf_eq, List.mem_flatMap, List.mem_map]

theorem length_of_mem_cuts {n : ℕ} {x : List String × Tree} (h : x ∈ t.cuts (.levels n)) :
    x.1.length ≤ n := by
  induction t generalizing n x with
  | leaf v =>
    rw [cuts_whole (Or.inr rfl), List.mem_singleton] at h
    simp [h]
  | branch cs ih =>
    by_cases hwhole : Depth.levels n = .levels 0 ∨ cs = []
    · rw [cuts_whole hwhole, List.mem_singleton] at h
      simp [h]
    · rw [not_or] at hwhole
      have hn : n ≠ 0 := fun hn => hwhole.1 (congrArg Depth.levels hn)
      rw [cuts_branch hwhole.1 hwhole.2, mem_cutsOf] at h
      obtain ⟨e, he, y, hy, rfl⟩ := h
      have hlength : y.1.length ≤ n - 1 := ih e he hy
      rw [List.length_cons]
      omega

theorem EveryKey.of_mem_cuts {P : String → Prop} (ht : t.EveryKey P) {x : List String × Tree}
    (h : x ∈ t.cuts depth) : ∀ s ∈ x.1, P s := by
  induction ht generalizing depth x with
  | leaf v =>
    rw [cuts_whole (Or.inr rfl), List.mem_singleton] at h
    simp [h]
  | @branch cs keys below ih =>
    by_cases hwhole : depth = .levels 0 ∨ cs = []
    · rw [cuts_whole hwhole, List.mem_singleton] at h
      simp [h]
    · rw [not_or] at hwhole
      rw [cuts_branch hwhole.1 hwhole.2, mem_cutsOf] at h
      obtain ⟨e, he, y, hy, rfl⟩ := h
      exact List.forall_mem_cons.2 ⟨keys e he, ih e he hy⟩

/-- A segment that leaves its trace in a joined key: it is not empty and does not hold the
delimiter. -/
def Visible (c : Char) (s : String) : Prop := s ≠ "" ∧ c ∉ s.toList

instance (c : Char) (s : String) : Decidable (Visible c s) := inferInstanceAs (Decidable (_ ∧ _))

theorem segments_joined (hp : p ≠ []) (hs : ∀ s ∈ p, Visible c s) :
    (PathSpec.text (joined (String.singleton c) p)).segments [String.singleton c] = p := by
  obtain ⟨k, r, rfl⟩ := List.exists_cons_of_ne_nil hp
  have hk : k ≠ "" := (hs k List.mem_cons_self).1
  have hdrop : (k :: r).dropWhile String.isEmpty = k :: r :=
    List.dropWhile_cons_of_neg (by simpa using hk)
  have hcut := cut_cons c [] (Text.join (String.singleton c) (k :: r))
  simp only [List.not_mem_nil, if_false, List.map_id'] at hcut
  rw [joined_eq, hdrop, PathSpec.segments_text (join_ne_empty hk c r)]
  refine hcut.trans ?_
  rw [Text.cutAt_join (fun s h => (hs s h).2) hp, List.map_map]
  have hback : String.ofList ∘ String.toList = id := funext fun s => String.ofList_toList
  rw [hback, List.map_id]

theorem visible_of_mem_cutsOf (hk : (branch cs).EveryKey (Visible c)) {x : List String × Tree}
    (h : x ∈ cutsOf depth cs) : x.1 ≠ [] ∧ ∀ s ∈ x.1, Visible c s := by
  obtain ⟨keys, below⟩ := everyKey_branch.1 hk
  obtain ⟨e, he, y, hy, rfl⟩ := mem_cutsOf.1 h
  exact ⟨List.cons_ne_nil _ _,
    List.forall_mem_cons.2 ⟨keys e he, (below e he).of_mem_cuts hy⟩⟩

/-- Flattening keeps an entry for each node at which it stops. -/
theorem flatten_of_visible (hw : (branch cs).WellFormed) (hk : (branch cs).EveryKey (Visible c))
    (hd : depth ≠ .levels 0) : (branch cs).flatten (String.singleton c) depth =
      (cutsOf depth cs).map fun x => (joined (String.singleton c) x.1, x.2) := by
  obtain ⟨hdistinct, hcs⟩ := wellFormed_branch.1 hw
  have hnodup : ((cutsOf depth cs).map Prod.fst).Nodup :=
    nodup_cutsOf hdistinct fun e he => nodup_cuts (hcs e he)
  have hkeys : Dict.keys ((cutsOf depth cs).map fun x => (joined (String.singleton c) x.1, x.2)) =
      ((cutsOf depth cs).map Prod.fst).map (joined (String.singleton c)) := by
    rw [Dict.keys, List.map_map, List.map_map]
    rfl
  have hvisible : ∀ p ∈ (cutsOf depth cs).map Prod.fst, p ≠ [] ∧ ∀ s ∈ p, Visible c s :=
    List.forall_mem_map.2 fun x hx => visible_of_mem_cutsOf hk hx
  rw [flatten_eq _ hd, Dict.ofEntries_of_distinct]
  rw [Dict.Distinct, hkeys]
  refine hnodup.map_on fun p hp q hq hpq => ?_
  rw [← segments_joined (hvisible p hp).1 (hvisible p hp).2, hpq,
    segments_joined (hvisible q hq).1 (hvisible q hq).2]

theorem unflatten_joined (hk : (branch cs).EveryKey (Visible c)) :
    unflatten (String.singleton c)
        ((cutsOf depth cs).map fun x => (joined (String.singleton c) x.1, x.2)) =
      putAll (cutsOf depth cs) empty := by
  rw [unflatten, List.foldl_map, putAll]
  refine List.foldl_ext _ _ _ fun t x hx => ?_
  obtain ⟨hne, hs⟩ := visible_of_mem_cutsOf hk hx
  rw [segments_joined hne hs]

theorem ofInt_ne_levels_zero {n : ℤ} (hn : n ≠ 0) : Depth.ofInt n ≠ .levels 0 := by
  rw [Depth.ofInt]
  split
  · exact Depth.noConfusion
  · intro h
    have hzero : n.toNat = 0 := Depth.levels.inj h
    omega

/-- Flattening to any depth but zero loses nothing: where no key is empty or holds the delimiter,
the entries, each put in its turn at the path that its key is cut into, make the tree again, its
children in their order. No key has more segments than the depth. -/
theorem unflatten_flatten (hw : (branch cs).WellFormed)
    (hk : (branch cs).EveryKey fun key => key ≠ "" ∧ c ∉ key.toList) {n : ℤ} (hn : n ≠ 0) :
    unflatten (String.singleton c) ((branch cs).flatten (String.singleton c) (.ofInt n)) =
      branch cs ∧
    (0 < n → ∀ e ∈ (branch cs).flatten (String.singleton c) (.ofInt n),
      ((PathSpec.text e.1).segments [String.singleton c]).length ≤ n) := by
  have hd : Depth.ofInt n ≠ .levels 0 := ofInt_ne_levels_zero hn
  rw [flatten_of_visible hw hk hd, List.forall_mem_map]
  constructor
  · have hcuts := putAll_cuts hw (Depth.ofInt n)
    by_cases hcs : cs = []
    · subst hcs
      rfl
    · rw [cuts_branch hd hcs] at hcuts
      rw [unflatten_joined hk, hcuts]
  · intro hpos x hx
    obtain ⟨hne, hs⟩ := visible_of_mem_cutsOf hk hx
    have hofInt : Depth.ofInt n = .levels n.toNat := if_neg (by omega)
    have hcs : cs ≠ [] := by
      rintro rfl
      exact absurd hx List.not_mem_nil
    rw [← cuts_branch hd hcs, hofInt] at hx
    have hlength : x.1.length ≤ n.toNat := length_of_mem_cuts hx
    rw [segments_joined hne hs]
    omega

/-- To two levels: a branch cut off below, a list, an empty branch, a key that starts another. -/
theorem unflatten_flatten_two_levels :
    let cs : List (String × Tree) :=
      [("a", .branch [("b", .branch [("c", .leaf .null)]), ("bc", .branch [])]),
        ("ab", .branch [("1", .leaf .null), ("0", .leaf (.bool true))]), ("d", .branch [])]
    (branch cs).WellFormed ∧ ((branch cs).EveryKey fun key => key ≠ "" ∧ '/' ∉ key.toList) ∧
      Dict.keys ((branch cs).flatten "/" (.ofInt 2)) = ["a/b", "a/bc", "ab/1", "ab/0", "d"] ∧
      unflatten "/" ((branch cs).flatten "/" (.ofInt 2)) = branch cs ∧
      ∀ e ∈ (branch cs).flatten "/" (.ofInt 2),
        ((PathSpec.text e.1).segments ["/"]).length ≤ 2 := by
  intro cs
  have hw : (branch cs).WellFormed := by
    simp [cs, WellFormed, WellFormedChildren, Dict.Distinct, Dict.keys]
  have hk : (branch cs).EveryKey fun key => key ≠ "" ∧ '/' ∉ key.toList := by
    simp [cs, everyKey_branch, EveryKey.leaf]
  obtain ⟨hback, hlength⟩ := unflatten_flatten hw hk (n := 2) (by decide)
  exact ⟨hw, hk, rfl, hback, fun e he => by exact_mod_cast hlength (by decide) e he⟩

end NestedData.Tree
