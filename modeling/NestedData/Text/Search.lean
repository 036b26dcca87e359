/-!
Searching text, as lists of characters: where a piece of text occurs, cutting at its occurrences,
and putting another text in their place. Occurrences are taken from the left and do not overlap.
-/

namespace NestedData.Text

def occurs (needle : List Char) : List Char → Bool
  | [] => needle.isEmpty
  | c :: cs => needle.isPrefixOf (c :: cs) || occurs needle cs

def grow (c : Char) : List (List Char) → List (List Char)
  | [] => [[c]]
  | piece :: rest => (c :: piece) :: rest

/-- The pieces between occurrences of `sep`, passing over the first `skip` characters, which are
what is left of an occurrence already found. -/
def pieces (sep : List Char) : Nat → List Char → List (List Char)
  | _, [] => [[]]
  | skip + 1, _ :: cs => pieces sep skip cs
  | 0, c :: cs =>
    if sep.isPrefixOf (c :: cs) then [] :: pieces sep (sep.length - 1) cs
    else grow c (pieces sep 0 cs)

/-- The text cut at every occurrence of the non-empty text `sep`, empty pieces kept. -/
def cutAt (sep text : List Char) : List (List Char) := pieces sep 0 text

def substitute (old new text : List Char) : List Char := new.intercalate (cutAt old text)

def join (delimiter : String) (parts : List String) : String :=
  String.ofList (delimiter.toList.intercalate (parts.map String.toList))

theorem grow_ne_nil (c : Char) (ps : List (List Char)) : grow c ps ≠ [] := by
  cases ps <;> simp [grow]

theorem pieces_ne_nil (sep : List Char) (skip : Nat) (text : List Char) :
    pieces sep skip text ≠ [] := by
  fun_induction pieces sep skip text with
  | case1 => simp
  | case2 _ _ _ ih => exact ih
  | case3 => simp
  | case4 => exact grow_ne_nil _ _

theorem mem_grow {c : Char} {p : List Char} {ps : List (List Char)} (h : p ∈ grow c ps) :
    p = [c] ∨ p ∈ ps ∨ ∃ q ∈ ps, p = c :: q := by
  cases ps with
  | nil => simpa [grow] using h
  | cons q ps =>
    rcases List.mem_cons.1 (by simpa [grow] using h) with rfl | h
    · exact Or.inr (Or.inr ⟨q, by simp, rfl⟩)
    · exact Or.inr (Or.inl (by simp [h]))

theorem not_mem_of_mem_cutAt {d : Char} {text p : List Char} (h : p ∈ cutAt [d] text) : d ∉ p := by
  induction text generalizing p with
  | nil => simp_all [cutAt, pieces]
  | cons c cs ih =>
    by_cases hc : d = c
    · subst hc
      simp only [cutAt, pieces, List.isPrefixOf, beq_self_eq_true, Bool.and_self, if_true,
        List.length_singleton, Nat.sub_self, List.mem_cons] at h
      rcases h with rfl | h
      · simp
      · exact ih h
    · have hb : (d == c) = false := by simpa using hc
      simp only [cutAt, pieces, List.isPrefixOf, hb, Bool.false_and, Bool.false_eq_true,
        if_false] at h
      rcases mem_grow h with rfl | h | ⟨q, hq, rfl⟩
      · simpa using hc
      · exact ih h
      · simpa [hc] using ih hq

theorem cutAt_eq_singleton {d : Char} {text : List Char} (h : d ∉ text) :
    cutAt [d] text = [text] := by
  induction text with
  | nil => rfl
  | cons c cs ih =>
    have hb : (d == c) = false := by simpa using fun he => h (by simp [he])
    have ht := ih (fun hm => h (by simp [hm]))
    unfold cutAt at ht
    simp [cutAt, pieces, List.isPrefixOf, hb, ht, grow]

end NestedData.Text
