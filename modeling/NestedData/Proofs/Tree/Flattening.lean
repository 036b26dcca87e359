import NestedData.View.Basic
import NestedData.Proofs.Tree.Normal
/-!
Flattening. The entries are the nodes at which it stops, each under the joined segments of its path;
without a bound on depth these are the leaves and the empty branches of the tree. Empty segments at
the start of a path leave no trace in the joined key, so that two nodes whose paths differ in
nothing else fall together; all others keep an entry of their own.
-/

namespace NestedData

theorem Dict.length_ofEntries_eq_iff {α : Type} {es : List (String × α)} :
    (ofEntries es).length = es.length ↔ Distinct es := by
  constructor
  · intro h
    have hsubset : keys (ofEntries es) ⊆ keys es := by
      intro k hk
      obtain ⟨e, he, rfl⟩ := List.mem_map.1 hk
      exact List.mem_map_of_mem (mem_of_mem_ofEntries he)
    have hperm := keys_perm (distinct_ofEntries es) h hsubset
    exact hperm.nodup_iff.1 (distinct_ofEntries es)
  · intro h
    rw [ofEntries_of_distinct h]

namespace Tree

mutual
/-- The nodes without children, which are leaves and empty branches, with their paths. -/
def tips : Tree → List (List String × Tree)
  | .leaf v => [([], .leaf v)]
  | .branch cs => if cs.isEmpty then [([], .branch cs)] else tipsOf cs

def tipsOf : List (String × Tree) → List (List String × Tree)
  | [] => []
  | (k, t) :: rest => (tips t).map (fun e => (k :: e.1, e.2)) ++ tipsOf rest
end

mutual
/-- The nodes at which flattening stops, with their paths: those at the last level, and above it
those without children. -/
def cuts (depth : Depth) : Tree → List (List String × Tree)
  | .leaf v => [([], .leaf v)]
  | .branch cs => if depth = .levels 0 ∨ cs.isEmpty then [([], .branch cs)] else cutsOf depth cs

def cutsOf (depth : Depth) : List (String × Tree) → List (List String × Tree)
  | [] => []
  | (k, t) :: rest => (cuts depth.next t).map (fun e => (k :: e.1, e.2)) ++ cutsOf depth rest
end

mutual
def emptyCount : Tree → Nat
  | .leaf _ => 0
  | .branch cs => if cs.isEmpty then 1 else emptyCountOf cs

def emptyCountOf : List (String × Tree) → Nat
  | [] => 0
  | (_, t) :: rest => emptyCount t + emptyCountOf rest
end

variable {c : Char} {delimiters : List Char} {p q : List String} {t u : Tree}
  {cs : List (String × Tree)} {depth : Depth}

theorem tipsOf_eq (cs : List (String × Tree)) :
    tipsOf cs = cs.flatMap fun e => (tips e.2).map fun x => (e.1 :: x.1, x.2) := by
  induction cs with
  | nil => rw [tipsOf, List.flatMap_nil]
  | cons e cs ih => rw [tipsOf, ih, List.flatMap_cons]

theorem tips_branch (h : cs ≠ []) : (branch cs).tips = tipsOf cs := by
  rw [tips, if_neg (by simpa using h)]

theorem length_tipsOf (h : ∀ e ∈ cs, (tips e.2).length = e.2.leafCount + e.2.emptyCount) :
    (tipsOf cs).length = leafCountOf cs + emptyCountOf cs := by
  induction cs with
  | nil => rfl
  | cons e cs ih =>
    rw [List.forall_mem_cons] at h
    rw [tipsOf, List.length_append, List.length_map, h.1, ih h.2, leafCountOf, emptyCountOf]
    omega

theorem length_tips (t : Tree) : t.tips.length = t.leafCount + t.emptyCount := by
  induction t with
  | leaf v => rfl
  | branch cs ih =>
    by_cases hcs : cs = []
    · rw [hcs]
      rfl
    · rw [tips_branch hcs, length_tipsOf ih, leafCount, emptyCount, if_neg (by simpa using hcs)]

theorem mem_tipsOf_iff (hd : Dict.Distinct cs)
    (h : ∀ e ∈ cs, ∀ p u, (p, u) ∈ e.2.tips ↔ e.2.find? p = some u ∧ u.children = [])
    (p : List String) (u : Tree) :
    (p, u) ∈ tipsOf cs ↔ p ≠ [] ∧ (branch cs).find? p = some u ∧ u.children = [] := by
  have hmem : (p, u) ∈ tipsOf cs ↔
      ∃ e ∈ cs, ∃ r, (e.2.find? r = some u ∧ u.children = []) ∧ p = e.1 :: r := by
    rw [tipsOf_eq, List.mem_flatMap]
    refine exists_congr fun e => and_congr_right fun he => ?_
    rw [List.mem_map]
    constructor
    · rintro ⟨⟨r, v⟩, hv, hx⟩
      obtain ⟨rfl, rfl⟩ := Prod.mk.inj hx
      exact ⟨r, (h e he r v).1 hv, rfl⟩
    · rintro ⟨r, hr, rfl⟩
      exact ⟨(r, u), (h e he r u).2 hr, rfl⟩
  rw [hmem]
  constructor
  · rintro ⟨⟨k, t⟩, he, r, ⟨hr, hu⟩, rfl⟩
    refine ⟨List.cons_ne_nil k r, ?_, hu⟩
    rw [find?_cons, child?_branch, Dict.get?_of_mem hd he]
    exact hr
  · rintro ⟨hp, hfind, hu⟩
    obtain ⟨k, r, rfl⟩ := List.exists_cons_of_ne_nil hp
    rw [find?_cons, child?_branch] at hfind
    obtain ⟨t, ht, hr⟩ := Option.bind_eq_some_iff.1 hfind
    exact ⟨(k, t), Dict.mem_of_get? ht, r, ⟨hr, hu⟩, rfl⟩

theorem tips_of_children_eq_nil (h : t.children = []) : t.tips = [([], t)] := by
  cases t with
  | leaf v => rfl
  | branch cs => rw [tips, if_pos (by simpa using h)]

theorem find?_of_children_eq_nil (h : t.children = []) :
    t.find? p = some u ↔ p = [] ∧ t = u := by
  cases p with
  | nil => simp
  | cons k p =>
    rw [find?_cons, ← get?_children, h]
    simp

theorem mem_tips_iff (hw : t.WellFormed) :
    (p, u) ∈ t.tips ↔ t.find? p = some u ∧ u.children = [] := by
  have hbare {t : Tree} {p : List String} {u : Tree} (h : t.children = []) :
      (p, u) ∈ t.tips ↔ t.find? p = some u ∧ u.children = [] := by
    rw [tips_of_children_eq_nil h, find?_of_children_eq_nil h, List.mem_singleton]
    constructor
    · intro hx
      obtain ⟨rfl, rfl⟩ := Prod.mk.inj hx
      exact ⟨⟨rfl, rfl⟩, h⟩
    · rintro ⟨⟨rfl, rfl⟩, -⟩
      rfl
  induction t generalizing p u with
  | leaf v => exact hbare rfl
  | branch cs ih =>
    obtain ⟨hd, hcs⟩ := wellFormed_branch.1 hw
    by_cases hne : cs = []
    · exact hbare hne
    · rw [tips_branch hne, mem_tipsOf_iff hd fun e he p u => ih e he (hcs e he)]
      refine and_iff_right_of_imp ?_
      rintro ⟨h, hu⟩ rfl
      rw [find?_nil] at h
      rw [← Option.some.inj h] at hu
      exact hne hu

theorem cutsOf_eq (depth : Depth) (cs : List (String × Tree)) :
    cutsOf depth cs = cs.flatMap fun e => (cuts depth.next e.2).map fun x => (e.1 :: x.1, x.2) := by
  induction cs with
  | nil => rw [cutsOf, List.flatMap_nil]
  | cons e cs ih => rw [cutsOf, ih, List.flatMap_cons]

theorem cuts_branch (hd : depth ≠ .levels 0) (h : cs ≠ []) :
    (branch cs).cuts depth = cutsOf depth cs := by
  rw [cuts, if_neg]
  rintro (h0 | hnil)
  · exact hd h0
  · exact h (List.isEmpty_iff.1 hnil)

theorem cuts_whole (h : depth = .levels 0 ∨ t.children = []) : t.cuts depth = [([], t)] := by
  cases t with
  | leaf v => rfl
  | branch cs =>
    rw [cuts]
    exact if_pos (h.imp_right List.isEmpty_iff.2)

theorem cuts_unbounded (t : Tree) : t.cuts .unbounded = t.tips := by
  induction t with
  | leaf v => rfl
  | branch cs ih =>
    by_cases hne : cs = []
    · rw [hne]
      rfl
    · rw [cuts_branch Depth.noConfusion hne, tips_branch hne, cutsOf_eq, tipsOf_eq]
      exact List.flatMap_congr fun e he => by rw [Depth.next, ih e he]

theorem cutsOf_unbounded (cs : List (String × Tree)) : cutsOf .unbounded cs = tipsOf cs := by
  rw [cutsOf_eq, tipsOf_eq]
  exact List.flatMap_congr fun e _ => by rw [Depth.next, cuts_unbounded]

theorem nodup_cutsOf (hd : Dict.Distinct cs)
    (h : ∀ e ∈ cs, ((e.2.cuts depth.next).map Prod.fst).Nodup) :
    ((cutsOf depth cs).map Prod.fst).Nodup := by
  have hpaths : (cutsOf depth cs).map Prod.fst =
      cs.flatMap fun e => ((e.2.cuts depth.next).map Prod.fst).map (e.1 :: ·) := by
    rw [cutsOf_eq, List.map_flatMap]
    refine List.flatMap_congr fun e _ => ?_
    rw [List.map_map, List.map_map]
    rfl
  rw [hpaths, List.nodup_flatMap]
  constructor
  · intro e he
    exact (h e he).map fun _ _ hpq => (List.cons.inj hpq).2
  · have hkeys : cs.Pairwise fun e f => e.1 ≠ f.1 := List.pairwise_map.1 hd
    refine hkeys.imp fun {e f} hef => ?_
    -- Paths through two children differ in their first segment.
    intro r hr hr'
    obtain ⟨p, -, rfl⟩ := List.mem_map.1 hr
    obtain ⟨q, -, hq⟩ := List.mem_map.1 hr'
    exact hef (List.cons.inj hq).1.symm

theorem nodup_cuts (hw : t.WellFormed) : ((t.cuts depth).map Prod.fst).Nodup := by
  induction t generalizing depth with
  | leaf v => exact List.nodup_singleton []
  | branch cs ih =>
    obtain ⟨hd, hcs⟩ := wellFormed_branch.1 hw
    by_cases hwhole : depth = .levels 0 ∨ cs = []
    · rw [cuts_whole hwhole]
      exact List.nodup_singleton []
    · rw [not_or] at hwhole
      rw [cuts_branch hwhole.1 hwhole.2]
      exact nodup_cutsOf hd fun e he => ih e he (hcs e he)

def joined (delimiter : String) (p : List String) : String := p.foldl (joinKey delimiter) ""

theorem entriesBelow_eq {delimiter : String}
    (h : ∀ e ∈ cs, ∀ key, entriesUnder delimiter depth.next key e.2 =
      (e.2.cuts depth.next).map fun x => (x.1.foldl (joinKey delimiter) key, x.2))
    (above : String) :
    entriesBelow delimiter depth above cs =
      (cutsOf depth cs).map fun x => (x.1.foldl (joinKey delimiter) above, x.2) := by
  induction cs with
  | nil => rfl
  | cons e cs ih =>
    obtain ⟨k, t⟩ := e
    rw [List.forall_mem_cons] at h
    rw [entriesBelow, h.1, ih h.2, cutsOf, List.map_append, List.map_map]
    rfl

theorem entriesUnder_eq (delimiter : String) (depth : Depth) (key : String) (t : Tree) :
    entriesUnder delimiter depth key t =
      (t.cuts depth).map fun x => (x.1.foldl (joinKey delimiter) key, x.2) := by
  induction t generalizing depth key with
  | leaf v => rfl
  | branch cs ih =>
    rw [entriesUnder, cuts]
    split
    · rfl
    · exact entriesBelow_eq (fun e he key => ih e he depth.next key) key

theorem flatten_eq (delimiter : String) (hd : depth ≠ .levels 0) (cs : List (String × Tree)) :
    (branch cs).flatten delimiter depth =
      Dict.ofEntries ((cutsOf depth cs).map fun x => (joined delimiter x.1, x.2)) := by
  rw [flatten, if_neg hd]
  exact congrArg Dict.ofEntries
    (entriesBelow_eq (fun e _ key => entriesUnder_eq delimiter depth.next key e.2) "")

theorem flatten_unbounded (delimiter : String) (cs : List (String × Tree)) :
    (branch cs).flatten delimiter .unbounded =
      Dict.ofEntries ((tipsOf cs).map fun x => (joined delimiter x.1, x.2)) := by
  rw [flatten_eq delimiter Depth.noConfusion, cutsOf_unbounded]

theorem toList_foldl_joinKey {above : String} (h : above ≠ "") (c : Char) (p : List String) :
    (p.foldl (joinKey (String.singleton c)) above).toList =
      [c].intercalate (above.toList :: p.map String.toList) := by
  induction p generalizing above with
  | nil => rw [List.foldl_nil, List.map_nil, List.intercalate_singleton]
  | cons k p ih =>
    have hjoin : joinKey (String.singleton c) above k = above ++ String.singleton c ++ k := by
      rw [joinKey, if_neg (by simpa using h)]
    have hne : above ++ String.singleton c ++ k ≠ "" := by simp
    rw [List.foldl_cons, hjoin, ih hne, List.map_cons, List.intercalate_cons_cons,
      String.toList_append, String.toList_append, String.toList_singleton,
      Text.intercalate_append_cons]

theorem joined_eq (c : Char) (p : List String) :
    joined (String.singleton c) p =
      Text.join (String.singleton c) (p.dropWhile String.isEmpty) := by
  induction p with
  | nil => rfl
  | cons k p ih =>
    by_cases hk : k = ""
    · subst hk
      exact ih
    · have hdrop : (k :: p).dropWhile String.isEmpty = k :: p :=
        List.dropWhile_cons_of_neg (by simpa using hk)
      apply String.toList_injective
      rw [hdrop, Text.toList_join]
      exact toList_foldl_joinKey hk c p

theorem join_ne_empty {k : String} (hk : k ≠ "") (c : Char) (p : List String) :
    Text.join (String.singleton c) (k :: p) ≠ "" := by
  obtain ⟨x, xs, hx⟩ := List.exists_cons_of_ne_nil (mt String.toList_eq_nil_iff.1 hk)
  intro h
  have htext := congrArg String.toList h
  rw [Text.toList_join, List.map_cons, hx, List.intercalate_cons_cons_left] at htext
  cases htext

theorem join_dropWhile_eq_empty_iff (c : Char) (p : List String) :
    Text.join (String.singleton c) (p.dropWhile String.isEmpty) = "" ↔
      p.dropWhile String.isEmpty = [] := by
  refine ⟨fun h => ?_, fun h => by rw [h]; rfl⟩
  by_contra hne
  obtain ⟨k, r, hkr⟩ := List.exists_cons_of_ne_nil hne
  have hk := List.head_dropWhile_not String.isEmpty hne
  simp only [hkr, List.head_cons] at hk
  rw [hkr] at h
  exact join_ne_empty (by simpa using hk) c r h

/-- Paths whose segments do not hold the delimiter have one joined key just when they differ in
nothing but empty segments at their start. -/
theorem joined_eq_iff (hp : ∀ s ∈ p, Whole [c] s) (hq : ∀ s ∈ q, Whole [c] s) :
    joined (String.singleton c) p = joined (String.singleton c) q ↔
      p.dropWhile String.isEmpty = q.dropWhile String.isEmpty := by
  rw [joined_eq, joined_eq]
  refine ⟨fun h => ?_, congrArg _⟩
  by_cases hnil : p.dropWhile String.isEmpty = [] ∨ q.dropWhile String.isEmpty = []
  · rcases hnil with hnil | hnil
    · rw [hnil, eq_comm, ← join_dropWhile_eq_empty_iff c, ← h, hnil]
      rfl
    · rw [hnil, ← join_dropWhile_eq_empty_iff c, h, hnil]
      rfl
  · rw [not_or] at hnil
    have hsegments {p : List String} (hp : ∀ s ∈ p, Whole [c] s) :
        ∀ s ∈ p.dropWhile String.isEmpty, c ∉ s.toList := fun s hs =>
      hp s (List.dropWhile_subset _ hs) c List.mem_cons_self
    exact Text.join_injective (hsegments hp) (hsegments hq) hnil.1 hnil.2 h

theorem whole_of_find? (hu : t.Undelimited delimiters) (h : t.find? p = some u) :
    ∀ s ∈ p, Whole delimiters s := by
  induction p generalizing t with
  | nil => exact fun s hs => absurd hs List.not_mem_nil
  | cons k p ih =>
    rw [find?_cons] at h
    obtain ⟨e, he, hp⟩ := Option.bind_eq_some_iff.1 h
    cases t with
    | leaf v => cases he
    | branch cs =>
      obtain ⟨hk, he⟩ := undelimited_branch.1 hu _ (Dict.mem_of_get? he)
      exact List.forall_mem_cons.2 ⟨hk, ih he hp⟩

/-- The path leads to a leaf or to an empty branch below the root. -/
def Ends (t : Tree) (p : List String) : Prop := p ≠ [] ∧ ∃ u, t.find? p = some u ∧ u.children = []

/-- No two leaves or empty branches lie at paths that differ in nothing but empty segments at their
start. -/
def Separated (t : Tree) : Prop :=
  ∀ p q, t.Ends p → t.Ends q → p.dropWhile String.isEmpty = q.dropWhile String.isEmpty → p = q

theorem mem_paths_iff (hw : (branch cs).WellFormed) :
    p ∈ (tipsOf cs).map Prod.fst ↔ (branch cs).Ends p := by
  obtain ⟨hd, hcs⟩ := wellFormed_branch.1 hw
  have hmem := mem_tipsOf_iff hd fun e he p u => mem_tips_iff (hcs e he)
  rw [List.mem_map]
  constructor
  · rintro ⟨⟨p, u⟩, hx, rfl⟩
    obtain ⟨hp, hu⟩ := (hmem p u).1 hx
    exact ⟨hp, u, hu⟩
  · rintro ⟨hp, u, hu⟩
    exact ⟨(p, u), (hmem p u).2 ⟨hp, hu⟩, rfl⟩

theorem distinct_entries_iff (hw : (branch cs).WellFormed) (hu : (branch cs).Undelimited [c]) :
    Dict.Distinct ((tipsOf cs).map fun x => (joined (String.singleton c) x.1, x.2)) ↔
      (branch cs).Separated := by
  obtain ⟨hd, hcs⟩ := wellFormed_branch.1 hw
  have hkeys : Dict.keys ((tipsOf cs).map fun x => (joined (String.singleton c) x.1, x.2)) =
      ((tipsOf cs).map Prod.fst).map (joined (String.singleton c)) := by
    rw [Dict.keys, List.map_map, List.map_map]
    rfl
  have hnodup : ((tipsOf cs).map Prod.fst).Nodup := by
    rw [← cutsOf_unbounded]
    exact nodup_cutsOf hd fun e he => nodup_cuts (hcs e he)
  have hjoined {p q : List String} (hp : (branch cs).Ends p) (hq : (branch cs).Ends q) :
      joined (String.singleton c) p = joined (String.singleton c) q ↔
        p.dropWhile String.isEmpty = q.dropWhile String.isEmpty := by
    obtain ⟨-, u, hpu, -⟩ := hp
    obtain ⟨-, v, hqv, -⟩ := hq
    exact joined_eq_iff (whole_of_find? hu hpu) (whole_of_find? hu hqv)
  rw [Dict.Distinct, hkeys, List.nodup_map_iff_inj_on hnodup]
  constructor
  · intro h p q hp hq hpq
    exact h p ((mem_paths_iff hw).2 hp) q ((mem_paths_iff hw).2 hq) ((hjoined hp hq).2 hpq)
  · intro h p hp q hq hpq
    rw [mem_paths_iff hw] at hp hq
    exact h p q hp hq ((hjoined hp hq).1 hpq)

/-- Flattening keeps an entry for every leaf and every empty branch just when no two of their paths
differ in nothing but empty segments at their start. -/
theorem flatten_length_eq_iff (hw : (branch cs).WellFormed) (hu : (branch cs).Undelimited [c]) :
    (((branch cs).flatten (String.singleton c) .unbounded).length =
        (branch cs).leafCount + emptyCountOf cs ↔ (branch cs).Separated) ∧
    ∀ (w : View) (t : Tree), w.config.main = String.singleton c → w.data t = .branch cs →
      ((w.keys .unbounded t).length = w.count t + emptyCountOf cs ↔ (branch cs).Separated) := by
  have hcount : (tipsOf cs).length = (branch cs).leafCount + emptyCountOf cs :=
    length_tipsOf fun e _ => length_tips e.2
  have hflatten : ((branch cs).flatten (String.singleton c) .unbounded).length =
      (branch cs).leafCount + emptyCountOf cs ↔ (branch cs).Separated := by
    rw [← distinct_entries_iff hw hu, ← Dict.length_ofEntries_eq_iff, ← flatten_unbounded,
      List.length_map, hcount]
  refine ⟨hflatten, fun w t hmain hdata => ?_⟩
  rw [View.keys, View.count, hmain, hdata, Dict.keys, List.length_map]
  exact hflatten

/-- Empty segments at the start of one path and inside others, and an empty branch. -/
theorem flatten_length_of_separated :
    let cs : List (String × Tree) := [("", .branch [("a", .leaf .null)]),
      ("b", .branch [("", .branch [("c", .leaf .null)]), ("c", .leaf .null)]), ("d", .branch [])]
    (branch cs).WellFormed ∧ (branch cs).Undelimited ['.'] ∧
      ((branch cs).flatten "." .unbounded).length = 4 ∧ (branch cs).leafCount = 3 ∧
      emptyCountOf cs = 1 ∧ (branch cs).Separated := by
  intro cs
  have hd : ∀ c ∈ ['.'], c.isDigit = false := by simp
  have ht : ofValue (texts ['.']) (.object [(".a", .null), ("b..c", .null), ("b.c", .null),
      ("d", .object [])]) = .branch cs := rfl
  have hn : Normal ['.'] (.branch cs) := ht ▸ normal_ofValue hd _
  have hlength : ((branch cs).flatten "." .unbounded).length = 4 := rfl
  refine ⟨hn.wellFormed, hn.undelimited, hlength, rfl, rfl, ?_⟩
  exact (flatten_length_eq_iff hn.wellFormed hn.undelimited).1.1 rfl

/-- A path with an empty first segment and the path without it: two leaves, and one entry. -/
theorem flatten_merges_leaves :
    let t := ofValue ["."] (.object [(".b", .bool true), ("b", .null)])
    t.WellFormed ∧ t.Undelimited ['.'] ∧ t.leafCount = 2 ∧
      t.flatten "." .unbounded = [("b", .leaf .null)] := by
  intro t
  have hn : Normal ['.'] t := normal_ofValue (by simp) _
  exact ⟨hn.wellFormed, hn.undelimited, rfl, rfl⟩

end Tree
end NestedData
