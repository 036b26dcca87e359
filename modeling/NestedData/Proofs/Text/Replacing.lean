import NestedData.Text.Search
import Mathlib.Data.List.Infix
/-!
Cutting and replacing at a text of any length. A text is gone through from the left, past each
occurrence and past each character where none begins. An occurrence has none but the characters of
the text that is sought, so that a character of another kind parts what is replaced before it from
what is replaced after it. So where words without such characters have gaps between them, each gap
is replaced on its own, and cutting gives back the words just when each gap is one occurrence.
-/

namespace NestedData.Text

variable {sep old new a b w text : List Char} {x c : Char} {cs : List Char}

theorem pieces_eq_cutAt_drop (sep : List Char) (skip : ℕ) (text : List Char) :
    pieces sep skip text = cutAt sep (text.drop skip) := by
  induction text generalizing skip with
  | nil =>
    rw [List.drop_nil]
    cases skip <;> rfl
  | cons c cs ih =>
    cases skip with
    | zero => rfl
    | succ skip => exact ih skip

theorem cutAt_append_self (h : sep ≠ []) (text : List Char) :
    cutAt sep (sep ++ text) = [] :: cutAt sep text := by
  obtain ⟨c, cs, rfl⟩ := List.exists_cons_of_ne_nil h
  have hprefix : (c :: cs).isPrefixOf (c :: (cs ++ text)) = true :=
    List.isPrefixOf_iff_prefix.2 (List.prefix_append (c :: cs) text)
  rw [List.cons_append, cutAt, pieces, if_pos hprefix, pieces_eq_cutAt_drop, List.length_cons,
    Nat.add_sub_cancel, List.drop_left]

theorem cutAt_cons_of_unmatched (h : ¬ sep <+: c :: cs) :
    cutAt sep (c :: cs) = grow c (cutAt sep cs) := by
  rw [cutAt, pieces, if_neg (List.isPrefixOf_iff_prefix.not.2 h)]
  rfl

@[elab_as_elim]
theorem occurrence_induct {motive : List Char → Prop} (hsep : sep ≠ []) (nil : motive [])
    (found : ∀ text, motive text → motive (sep ++ text))
    (other : ∀ c cs, ¬ sep <+: c :: cs → motive cs → motive (c :: cs)) :
    ∀ text, motive text
  | [] => nil
  | c :: cs => by
    by_cases h : sep <+: c :: cs
    · obtain ⟨rest, hrest⟩ := h
      have hshorter : rest.length < (c :: cs).length := by
        have := List.length_pos_of_ne_nil hsep
        rw [← hrest, List.length_append]
        omega
      rw [← hrest]
      exact found rest (occurrence_induct hsep nil found other rest)
    · exact other c cs h (occurrence_induct hsep nil found other cs)
termination_by text => text.length
decreasing_by
  · exact hshorter
  · exact Nat.lt_succ_self cs.length

theorem cutAt_ne_nil (sep text : List Char) : cutAt sep text ≠ [] := pieces_ne_nil sep 0 text

theorem intercalate_grow (sep : List Char) (c : Char) {ps : List (List Char)} (h : ps ≠ []) :
    sep.intercalate (grow c ps) = c :: sep.intercalate ps := by
  obtain ⟨p, ps, rfl⟩ := List.exists_cons_of_ne_nil h
  exact List.intercalate_cons_cons_left

theorem substitute_nil (old new : List Char) : substitute old new [] = [] :=
  List.intercalate_singleton

theorem substitute_append_self (h : old ≠ []) (new text : List Char) :
    substitute old new (old ++ text) = new ++ substitute old new text := by
  rw [substitute, cutAt_append_self h, List.intercalate_cons_of_ne_nil (cutAt_ne_nil old text)]
  rfl

theorem substitute_cons_of_unmatched (h : ¬ old <+: c :: cs) (new : List Char) :
    substitute old new (c :: cs) = c :: substitute old new cs := by
  rw [substitute, cutAt_cons_of_unmatched h, intercalate_grow new c (cutAt_ne_nil old cs)]
  rfl

theorem intercalate_cutAt (h : sep ≠ []) (text : List Char) :
    sep.intercalate (cutAt sep text) = text := by
  induction text using occurrence_induct h with
  | nil => exact substitute_nil sep sep
  | found text ih => exact (substitute_append_self h sep text).trans (congrArg (sep ++ ·) ih)
  | other c cs hc ih => exact (substitute_cons_of_unmatched hc sep).trans (congrArg (c :: ·) ih)

theorem substitute_of_not_infix (hno : ¬ old <:+: text) (new : List Char) :
    substitute old new text = text := by
  induction text with
  | nil => exact substitute_nil old new
  | cons c cs ih =>
    have hprefix : ¬ old <+: c :: cs := fun hp => hno hp.isInfix
    have hrest : ¬ old <:+: cs := fun hi => hno (hi.trans (List.suffix_cons c cs).isInfix)
    rw [substitute_cons_of_unmatched hprefix, ih hrest]

theorem mem_substitute (h : old ≠ []) (hx : x ∈ substitute old new text) : x ∈ new ∨ x ∈ text := by
  induction text using occurrence_induct h with
  | nil =>
    rw [substitute_nil] at hx
    cases hx
  | found text ih =>
    rw [substitute_append_self h] at hx
    rcases List.mem_append.1 hx with hx | hx
    · exact Or.inl hx
    · exact (ih hx).imp_right (List.mem_append_right old)
  | other c cs hc ih =>
    rw [substitute_cons_of_unmatched hc] at hx
    rcases List.mem_cons.1 hx with rfl | hx
    · exact Or.inr List.mem_cons_self
    · exact (ih hx).imp_right (List.mem_cons_of_mem c)

theorem not_prefix_cons (h : old ≠ []) (hx : x ∉ old) (text : List Char) : ¬ old <+: x :: text := by
  obtain ⟨c, cs, rfl⟩ := List.exists_cons_of_ne_nil h
  intro hp
  obtain ⟨rfl, -⟩ := List.cons_prefix_cons.1 hp
  exact hx List.mem_cons_self

theorem prefix_of_prefix_append_cons (hx : x ∉ old) (hp : old <+: a ++ x :: b) : old <+: a := by
  rcases List.prefix_or_prefix_of_prefix hp (List.prefix_append a (x :: b)) with h | ⟨r, rfl⟩
  · exact h
  · rw [List.prefix_append_right_inj] at hp
    cases r with
    | nil => rw [List.append_nil]
    | cons y r =>
      obtain ⟨rfl, -⟩ := List.cons_prefix_cons.1 hp
      exact absurd (List.mem_append_right a List.mem_cons_self) hx

theorem substitute_append_cons (h : old ≠ []) (hx : x ∉ old) (new a b : List Char) :
    substitute old new (a ++ x :: b) = substitute old new a ++ x :: substitute old new b := by
  induction a using occurrence_induct h with
  | nil =>
    rw [List.nil_append, substitute_cons_of_unmatched (not_prefix_cons h hx b), substitute_nil,
      List.nil_append]
  | found a ih =>
    rw [List.append_assoc, substitute_append_self h, ih, substitute_append_self h,
      List.append_assoc]
  | other c cs hc ih =>
    have hc' : ¬ old <+: c :: (cs ++ x :: b) := fun hp => hc (prefix_of_prefix_append_cons hx hp)
    rw [List.cons_append, substitute_cons_of_unmatched hc', ih,
      substitute_cons_of_unmatched hc, List.cons_append]

theorem substitute_append_of_disjoint (h : old ≠ []) (hw : old.Disjoint w) (new b : List Char) :
    substitute old new (w ++ b) = w ++ substitute old new b := by
  induction w with
  | nil => rfl
  | cons x w ih =>
    rw [List.disjoint_cons_right] at hw
    rw [List.cons_append, substitute_cons_of_unmatched (not_prefix_cons h hw.1 _), ih hw.2]
    rfl

theorem cutAt_append_of_disjoint (h : sep ≠ []) (hw : sep.Disjoint w) (text : List Char) :
    cutAt sep (w ++ sep ++ text) = w :: cutAt sep text := by
  induction w with
  | nil => exact cutAt_append_self h text
  | cons x w ih =>
    rw [List.disjoint_cons_right] at hw
    rw [List.cons_append, List.cons_append, cutAt_cons_of_unmatched (not_prefix_cons h hw.1 _),
      ih hw.2]
    rfl

theorem cutAt_of_disjoint (h : sep ≠ []) (hw : sep.Disjoint w) : cutAt sep w = [w] := by
  induction w with
  | nil => rfl
  | cons x w ih =>
    rw [List.disjoint_cons_right] at hw
    rw [cutAt_cons_of_unmatched (not_prefix_cons h hw.1 w), ih hw.2]
    rfl

/-- A word, and after it other words, each with the gap before it. -/
def weave : List Char → List (List Char × List Char) → List Char
  | first, [] => first
  | first, (gap, next) :: rest => first ++ gap ++ weave next rest

variable {first : List Char} {rest : List (List Char × List Char)}

theorem weave_cons (x : Char) (w : List Char) (rest : List (List Char × List Char)) :
    weave (x :: w) rest = x :: weave w rest := by
  cases rest <;> rfl

/-- Gaps between words are replaced one by one. -/
theorem substitute_weave (h : old ≠ []) (hfirst : old.Disjoint first)
    (hrest : ∀ e ∈ rest, e.2 ≠ [] ∧ old.Disjoint e.2) (new : List Char) :
    substitute old new (weave first rest) =
      weave first (rest.map fun e => (substitute old new e.1, e.2)) := by
  induction rest generalizing first with
  | nil =>
    have hpassed := substitute_append_of_disjoint h hfirst new []
    rwa [List.append_nil, substitute_nil, List.append_nil] at hpassed
  | cons e rest ih =>
    obtain ⟨gap, next⟩ := e
    rw [List.forall_mem_cons] at hrest
    obtain ⟨⟨hnext, hdisjoint⟩, hrest⟩ := hrest
    have hlater := ih hdisjoint hrest
    obtain ⟨x, w, rfl⟩ := List.exists_cons_of_ne_nil hnext
    have hx : x ∉ old := (List.disjoint_cons_right.1 hdisjoint).1
    rw [weave_cons, substitute_cons_of_unmatched (not_prefix_cons h hx _)] at hlater
    rw [weave, weave_cons, List.append_assoc, substitute_append_of_disjoint h hfirst,
      substitute_append_cons h hx, hlater, ← List.append_assoc]
    rfl

theorem append_cons_inj {a' b' : List Char} (ha : x ∉ a) (ha' : x ∉ a')
    (h : a ++ x :: b = a' ++ x :: b') : a = a' ∧ b = b' := by
  induction a generalizing a' with
  | nil =>
    cases a' with
    | nil => exact ⟨rfl, (List.cons.inj h).2⟩
    | cons c cs =>
      obtain ⟨rfl, -⟩ := List.cons.inj h
      exact absurd List.mem_cons_self ha'
  | cons c cs ih =>
    cases a' with
    | nil =>
      obtain ⟨rfl, -⟩ := List.cons.inj h
      exact absurd List.mem_cons_self ha
    | cons c' cs' =>
      obtain ⟨rfl, htail⟩ := List.cons.inj h
      obtain ⟨rfl, hb⟩ := ih (fun hm => ha (List.mem_cons_of_mem c hm))
        (fun hm => ha' (List.mem_cons_of_mem c hm)) htail
      exact ⟨rfl, hb⟩

theorem weave_eq_intercalate (sep first : List Char) (rest : List (List Char × List Char)) :
    weave first (rest.map fun e => (sep, e.2)) = sep.intercalate (first :: rest.map Prod.snd) := by
  induction rest generalizing first with
  | nil => exact List.intercalate_singleton.symm
  | cons e rest ih =>
    rw [List.map_cons, weave, ih, List.map_cons, List.intercalate_cons_cons]

theorem gaps_eq_of_weave_eq (hrest : ∀ e ∈ rest, e.2 ≠ [] ∧ sep.Disjoint e.2 ∧ e.1.Disjoint e.2)
    (h : weave first rest = weave first (rest.map fun e => (sep, e.2))) :
    ∀ e ∈ rest, e.1 = sep := by
  induction rest generalizing first with
  | nil => exact fun e he => absurd he List.not_mem_nil
  | cons e rest ih =>
    obtain ⟨gap, next⟩ := e
    rw [List.forall_mem_cons] at hrest ⊢
    obtain ⟨⟨hnext, hsep, hgap⟩, hrest⟩ := hrest
    obtain ⟨x, w, rfl⟩ := List.exists_cons_of_ne_nil hnext
    rw [List.map_cons, weave, weave, weave_cons, weave_cons, List.append_assoc, List.append_assoc]
      at h
    obtain ⟨hhere, hlater⟩ := append_cons_inj (List.disjoint_cons_right.1 hgap).1
      (List.disjoint_cons_right.1 hsep).1 (List.append_cancel_left h)
    exact ⟨hhere, ih hrest hlater⟩

/-- Cutting gives back the words just when each gap is the separator. -/
theorem cutAt_weave_iff (h : sep ≠ []) (hfirst : sep.Disjoint first)
    (hrest : ∀ e ∈ rest, e.2 ≠ [] ∧ sep.Disjoint e.2 ∧ e.1.Disjoint e.2) :
    cutAt sep (weave first rest) = first :: rest.map Prod.snd ↔ ∀ e ∈ rest, e.1 = sep := by
  constructor
  · intro hcut
    apply gaps_eq_of_weave_eq hrest
    rw [weave_eq_intercalate, ← hcut, intercalate_cutAt h]
  · intro hgaps
    induction rest generalizing first with
    | nil => exact cutAt_of_disjoint h hfirst
    | cons e rest ih =>
      obtain ⟨gap, next⟩ := e
      rw [List.forall_mem_cons] at hrest hgaps
      obtain ⟨rfl, hgaps⟩ := hgaps
      rw [weave, cutAt_append_of_disjoint h hfirst, ih hrest.1.2.1 hrest.2 hgaps, List.map_cons]

end NestedData.Text
