import NestedData.Tree.Values
import NestedData.Proofs.Text.Cutting
import NestedData.Proofs.Tree.Shape
import NestedData.Proofs.Number.DecimalText
/-!
Keys as paths, when every delimiter is a single character. No segment of a key holds a delimiter,
and a key without a delimiter is its own only segment; so are the indexes of lists, unless a digit
is a delimiter.
-/

namespace NestedData

theorem Fragment.fold_cons {d : String} (h : d ≠ "") (main : List Char) (others : List String)
    (text : List Char) :
    fold main (d :: others) text = fold main others (Text.substitute d.toList main text) := by
  rw [fold, List.foldl_cons, if_neg (by simpa using h)]
  rfl

theorem Fragment.fold_singletons (main : Char) (others : List Char) (text : List Char) :
    fold [main] (others.map String.singleton) text =
      text.map fun c => if c ∈ others then main else c := by
  induction others generalizing text with
  | nil => simp [fold]
  | cons d others ih =>
    rw [List.map_cons, fold_cons (by simp), String.toList_singleton, ih, Text.substitute_singleton,
      List.map_map]
    refine List.map_congr_left fun c _ => ?_
    by_cases hc : d = c
    · subst hc
      simp
    · have hc' : c ≠ d := fun h => hc h.symm
      simp [hc, hc']

theorem PathSpec.segments_text {text : String} (h : text ≠ "") (delimiters : List String) :
    (PathSpec.text text).segments delimiters = Fragment.cut delimiters text := by
  have htext : (PathSpec.text text).isEmpty = false := by
    simpa [PathSpec.isEmpty, PathSpec.text, Nest.leaves, Fragment.isEmpty] using h
  rw [PathSpec.segments, htext]
  simp [PathSpec.text, Nest.leaves, Fragment.segments]

namespace Tree

variable {delimiters : List Char} {key s : String}

def texts (delimiters : List Char) : List String := delimiters.map String.singleton

theorem keySegments_empty (delimiters : List String) : keySegments delimiters "" = [""] := rfl

theorem cut_ne_nil (delimiters : List String) (key : String) :
    Fragment.cut delimiters key ≠ [] := by
  unfold Fragment.cut
  split
  · exact List.cons_ne_nil key []
  · split
    · exact List.cons_ne_nil key []
    · exact fun h => Text.pieces_ne_nil _ 0 _ (List.map_eq_nil_iff.1 h)

theorem keySegments_of_ne_empty (h : key ≠ "") (delimiters : List String) :
    keySegments delimiters key = Fragment.cut delimiters key := by
  rw [keySegments, PathSpec.segments_text h]
  split
  · rename_i hcut
    exact absurd hcut (cut_ne_nil delimiters key)
  · rfl

theorem cut_cons (main : Char) (others : List Char) (key : String) :
    Fragment.cut (texts (main :: others)) key =
      (Text.cutAt [main] (key.toList.map fun c => if c ∈ others then main else c)).map
        String.ofList := by
  have hmain : (String.singleton main).isEmpty = false := by simp
  rw [texts, List.map_cons, Fragment.cut, hmain, String.toList_singleton,
    Fragment.fold_singletons]
  rfl

theorem whole_of_mem_cut (h : s ∈ Fragment.cut (texts delimiters) key) : Whole delimiters s := by
  cases delimiters with
  | nil => exact whole_nil s
  | cons main others =>
    rw [cut_cons] at h
    obtain ⟨p, hp, rfl⟩ := List.mem_map.1 h
    intro c hc hcp
    rw [String.toList_ofList] at hcp
    have hmain : c ≠ main := fun he => Text.not_mem_of_mem_cutAt hp (he ▸ hcp)
    -- A character of the folded text that is not the main delimiter has not been put there.
    obtain ⟨x, -, hx⟩ := List.mem_map.1 (Text.mem_of_mem_cutAt hp hcp)
    by_cases ho : x ∈ others
    · rw [if_pos ho] at hx
      exact hmain hx.symm
    · rw [if_neg ho] at hx
      rcases List.mem_cons.1 hc with hc | hc
      · exact hmain hc
      · exact ho (hx ▸ hc)

theorem cut_of_whole (h : Whole delimiters key) : Fragment.cut (texts delimiters) key = [key] := by
  cases delimiters with
  | nil => rfl
  | cons main others =>
    have hfold : (key.toList.map fun c => if c ∈ others then main else c) = key.toList := by
      rw [List.map_congr_left (g := id), List.map_id]
      intro c hc
      exact if_neg fun ho => h c (List.mem_cons_of_mem main ho) hc
    rw [cut_cons, hfold, Text.cutAt_eq_singleton (h main List.mem_cons_self), List.map_singleton,
      String.ofList_toList]

theorem whole_empty (delimiters : List Char) : Whole delimiters "" := fun _ _ hc => nomatch hc

theorem whole_of_mem_keySegments (h : s ∈ keySegments (texts delimiters) key) :
    Whole delimiters s := by
  by_cases hkey : key = ""
  · rw [hkey, keySegments_empty, List.mem_singleton] at h
    rw [h]
    exact whole_empty delimiters
  · rw [keySegments_of_ne_empty hkey] at h
    exact whole_of_mem_cut h

theorem keySegments_of_whole (h : Whole delimiters key) :
    keySegments (texts delimiters) key = [key] := by
  by_cases hkey : key = ""
  · rw [hkey, keySegments_empty]
  · rw [keySegments_of_ne_empty hkey, cut_of_whole h]

theorem indexKey_injective {m n : ℕ} (h : indexKey m = indexKey n) : m = n := by
  apply Number.toDigits_ten_injective
  rw [← Nat.toList_repr, ← Nat.toList_repr]
  exact congrArg String.toList h

theorem whole_indexKey (h : ∀ c ∈ delimiters, c.isDigit = false) (n : ℕ) :
    Whole delimiters (indexKey n) := by
  intro c hc
  rw [indexKey, Nat.toList_repr]
  exact (Number.digits_toDigits n).not_mem (h c hc)

end Tree
end NestedData
