import NestedData.Proofs.Text.Replacing
/-!
Cutting texts at one character, and joining them again. The pieces hold no character but those of
the text, and a list of texts without the character can be told from the text that they are joined
to.
-/

namespace NestedData.Text

variable {c d x : Char} {p text : List Char}

theorem cutAt_cons (d c : Char) (cs : List Char) :
    cutAt [d] (c :: cs) = if d = c then [] :: cutAt [d] cs else grow c (cutAt [d] cs) := by
  by_cases h : d = c <;> simp [cutAt, pieces, List.isPrefixOf, h]

theorem mem_of_mem_cutAt (hp : p ∈ cutAt [d] text) (hx : x ∈ p) : x ∈ text := by
  induction text generalizing p with
  | nil =>
    rw [show cutAt [d] [] = [[]] from rfl, List.mem_singleton] at hp
    rwa [hp] at hx
  | cons c cs ih =>
    rw [cutAt_cons] at hp
    split at hp
    · rcases List.mem_cons.1 hp with rfl | hp
      · cases hx
      · exact List.mem_cons_of_mem c (ih hp hx)
    · rcases mem_grow hp with rfl | hp | ⟨q, hq, rfl⟩
      · rw [List.mem_singleton.1 hx]
        exact List.mem_cons_self
      · exact List.mem_cons_of_mem c (ih hp hx)
      · rcases List.mem_cons.1 hx with rfl | hx
        · exact List.mem_cons_self
        · exact List.mem_cons_of_mem c (ih hq hx)

theorem intercalate_append_cons (sep p q : List Char) (ps : List (List Char)) :
    sep.intercalate ((p ++ q) :: ps) = p ++ sep.intercalate (q :: ps) := by
  cases ps with
  | nil => rw [List.intercalate_singleton, List.intercalate_singleton]
  | cons r ps =>
    rw [List.intercalate_cons_cons, List.intercalate_cons_cons, List.append_assoc,
      List.append_assoc, List.append_assoc]

theorem substitute_singleton (d c : Char) (text : List Char) :
    substitute [d] [c] text = text.map fun x => if d = x then c else x := by
  have hd : [d] ≠ [] := List.cons_ne_nil d []
  induction text with
  | nil => exact substitute_nil [d] [c]
  | cons x cs ih =>
    rw [List.map_cons, ← ih]
    by_cases h : d = x
    · subst h
      rw [if_pos rfl]
      exact substitute_append_self hd [c] cs
    · rw [if_neg h]
      exact substitute_cons_of_unmatched (not_prefix_cons hd (by simpa using Ne.symm h) cs) [c]

theorem toList_join (c : Char) (parts : List String) :
    (join (String.singleton c) parts).toList = [c].intercalate (parts.map String.toList) := by
  rw [join, String.toList_ofList, String.toList_singleton]

theorem length_join_cons_cons (c : Char) (p q : String) (ps : List String) :
    (join (String.singleton c) (p :: q :: ps)).length =
      p.length + 1 + (join (String.singleton c) (q :: ps)).length := by
  rw [← String.length_toList, ← String.length_toList, ← String.length_toList, toList_join,
    toList_join, List.map_cons, List.map_cons, List.intercalate_cons_cons, List.length_append,
    List.length_append, List.length_singleton]

theorem cutAt_append_cons (h : d ∉ p) (text : List Char) :
    cutAt [d] (p ++ d :: text) = p :: cutAt [d] text := by
  have hcut := cutAt_append_of_disjoint (List.cons_ne_nil d []) (List.singleton_disjoint.2 h) text
  rwa [List.append_assoc, List.singleton_append] at hcut

theorem cutAt_join {ps : List String} (h : ∀ p ∈ ps, c ∉ p.toList) (hne : ps ≠ []) :
    cutAt [c] (join (String.singleton c) ps).toList = ps.map String.toList := by
  rw [toList_join]
  induction ps with
  | nil => exact absurd rfl hne
  | cons p ps ih =>
    rw [List.forall_mem_cons] at h
    cases ps with
    | nil =>
      rw [List.map_singleton, List.intercalate_singleton]
      exact cutAt_eq_singleton h.1
    | cons q ps =>
      have hcons : [c].intercalate ((p :: q :: ps).map String.toList) =
          p.toList ++ c :: [c].intercalate ((q :: ps).map String.toList) := by
        simp [List.intercalate_cons_cons]
      rw [hcons, cutAt_append_cons h.1, ih h.2 (List.cons_ne_nil q ps), List.map_cons (a := p)]

theorem join_injective {ps qs : List String} (hp : ∀ p ∈ ps, c ∉ p.toList)
    (hq : ∀ q ∈ qs, c ∉ q.toList) (hps : ps ≠ []) (hqs : qs ≠ [])
    (h : join (String.singleton c) ps = join (String.singleton c) qs) : ps = qs := by
  have hmap : ps.map String.toList = qs.map String.toList := by
    rw [← cutAt_join hp hps, ← cutAt_join hq hqs, h]
  exact List.map_injective_iff.2 (fun _ _ => String.toList_injective) hmap

end NestedData.Text
