import NestedData.Config
import NestedData.Proofs.Tree.Keys
/-!
Texts that are put together with several delimiters. The delimiters are folded one after the other,
so that one may be folded within another; the segments of a text come back exactly when each
delimiter between them, folded on its own, becomes the main one. Single characters do not stand in
one another, and a text is cut at each of them that is in it, whichever it is.
-/

namespace NestedData

def Text.joinWith : String → List (String × String) → String
  | first, [] => first
  | first, (delimiter, next) :: rest => first ++ delimiter ++ joinWith next rest

theorem Text.toList_joinWith (first : String) (rest : List (String × String)) :
    (joinWith first rest).toList =
      weave first.toList (rest.map fun e => (e.1.toList, e.2.toList)) := by
  induction rest generalizing first with
  | nil => rfl
  | cons e rest ih =>
    rw [joinWith, String.toList_append, String.toList_append, ih]
    rfl

theorem Text.joinWith_ne_empty {first : String} (h : first ≠ "") (rest : List (String × String)) :
    joinWith first rest ≠ "" := by
  cases rest with
  | nil => exact h
  | cons e rest =>
    intro he
    rw [joinWith, String.append_assoc, String.append_eq_empty_iff] at he
    exact h he.1

namespace Fragment

variable {main : List Char} {d : String} {others : List String} {x : Char} {text : List Char}

theorem mem_fold (hothers : ∀ d ∈ others, d ≠ "") (hx : x ∈ fold main others text) :
    x ∈ main ∨ x ∈ text := by
  induction others generalizing text with
  | nil => exact Or.inr hx
  | cons d others ih =>
    rw [List.forall_mem_cons] at hothers
    rw [fold_cons hothers.1] at hx
    rcases ih hothers.2 hx with hx | hx
    · exact Or.inl hx
    · exact Text.mem_substitute (by simpa using hothers.1) hx

/-- Gaps between words without a delimiter character are folded one by one. -/
theorem fold_weave {first : List Char} {rest : List (List Char × List Char)}
    (hothers : ∀ d ∈ others, d ≠ "") (hfirst : ∀ d ∈ others, d.toList.Disjoint first)
    (hrest : ∀ e ∈ rest, e.2 ≠ [] ∧ ∀ d ∈ others, d.toList.Disjoint e.2) (main : List Char) :
    fold main others (Text.weave first rest) =
      Text.weave first (rest.map fun e => (fold main others e.1, e.2)) := by
  induction others generalizing rest with
  | nil => exact congrArg (Text.weave first) (List.map_id rest).symm
  | cons d others ih =>
    rw [List.forall_mem_cons] at hothers hfirst
    have hd : d.toList ≠ [] := by simpa using hothers.1
    have hhere : ∀ e ∈ rest, e.2 ≠ [] ∧ d.toList.Disjoint e.2 := fun e he =>
      ⟨(hrest e he).1, (hrest e he).2 d List.mem_cons_self⟩
    have hlater : ∀ e ∈ rest.map fun e => (Text.substitute d.toList main e.1, e.2),
        e.2 ≠ [] ∧ ∀ d ∈ others, d.toList.Disjoint e.2 :=
      List.forall_mem_map.2 fun e he =>
        ⟨(hrest e he).1, fun d hd => (hrest e he).2 d (List.mem_cons_of_mem _ hd)⟩
    rw [fold_cons hothers.1, Text.substitute_weave hd hfirst.1 hhere,
      ih hothers.2 hfirst.2 hlater, List.map_map]
    refine congrArg _ (List.map_congr_left fun e _ => ?_)
    rw [fold_cons hothers.1]
    rfl

variable {first : String} {rest : List (String × String)}

theorem fold_joinWith (hothers : ∀ d ∈ others, d ≠ "")
    (hfirst : ∀ d ∈ others, Tree.Whole d.toList first)
    (hrest : ∀ e ∈ rest, e.2 ≠ "" ∧ ∀ d ∈ others, Tree.Whole d.toList e.2) (main : List Char) :
    fold main others (Text.joinWith first rest).toList =
      Text.weave first.toList (rest.map fun e => (fold main others e.1.toList, e.2.toList)) := by
  have hwords : ∀ e ∈ rest.map fun e => (e.1.toList, e.2.toList),
      e.2 ≠ [] ∧ ∀ d ∈ others, d.toList.Disjoint e.2 :=
    List.forall_mem_map.2 fun e he => ⟨by simpa using (hrest e he).1, (hrest e he).2⟩
  rw [Text.toList_joinWith, fold_weave hothers hfirst hwords, List.map_map]
  rfl

theorem cut_joinWith_iff {main : String} (hne : ∀ d ∈ main :: others, d ≠ "")
    (hfirst : ∀ d ∈ main :: others, Tree.Whole d.toList first)
    (hrest : ∀ e ∈ rest, e.1 ∈ main :: others ∧ e.2 ≠ "" ∧
      ∀ d ∈ main :: others, Tree.Whole d.toList e.2) :
    cut (main :: others) (Text.joinWith first rest) = first :: rest.map Prod.snd ↔
      ∀ e ∈ rest, fold main.toList others e.1.toList = main.toList := by
  rw [List.forall_mem_cons] at hne hfirst
  have hmain : main.toList ≠ [] := by simpa using hne.1
  let folded := rest.map fun e => (fold main.toList others e.1.toList, e.2.toList)
  have hfolded : ∀ e ∈ folded, e.2 ≠ [] ∧ main.toList.Disjoint e.2 ∧ e.1.Disjoint e.2 := by
    refine List.forall_mem_map.2 fun e he => ?_
    obtain ⟨hd, hnext, hapart⟩ := hrest e he
    refine ⟨by simpa using hnext, hapart main List.mem_cons_self, fun x hx => ?_⟩
    -- What a delimiter is folded to has the characters of delimiters.
    rcases mem_fold hne.2 hx with hx | hx
    · exact hapart main List.mem_cons_self x hx
    · exact hapart e.1 hd x hx
  have hcut : cut (main :: others) (Text.joinWith first rest) =
      (Text.cutAt main.toList (Text.weave first.toList folded)).map String.ofList := by
    have hrest' : ∀ e ∈ rest, e.2 ≠ "" ∧ ∀ d ∈ others, Tree.Whole d.toList e.2 := fun e he =>
      ⟨(hrest e he).2.1, fun d hd => (hrest e he).2.2 d (List.mem_cons_of_mem main hd)⟩
    rw [← fold_joinWith hne.2 hfirst.2 hrest', cut, if_neg (by simpa using hne.1)]
  have hparts : (first.toList :: folded.map Prod.snd).map String.ofList =
      first :: rest.map Prod.snd := by
    simp [folded, Function.comp_def]
  rw [hcut, ← hparts,
    (List.map_injective_iff.2 fun _ _ => String.ofList_injective).eq_iff,
    Text.cutAt_weave_iff hmain hfirst.1 hfolded]
  exact List.forall_mem_map

/-- Where no delimiter stands in another, each is left alone until its own turn. -/
theorem fold_of_unrelated {main : String} (hothers : ∀ d ∈ others, d ≠ "")
    (h : ∀ d ∈ main :: others, ∀ e ∈ main :: others, d.toList <:+: e.toList → d = e)
    (hd : d ∈ main :: others) : fold main.toList others d.toList = main.toList := by
  induction others generalizing d with
  | nil =>
    rw [List.mem_singleton.1 hd]
    rfl
  | cons e others ih =>
    have hsub : ∀ d ∈ main :: others, d ∈ main :: e :: others := by
      intro d hd
      rcases List.mem_cons.1 hd with rfl | hd
      · exact List.mem_cons_self
      · exact List.mem_cons_of_mem _ (List.mem_cons_of_mem e hd)
    have hrest : ∀ d ∈ main :: others, fold main.toList others d.toList = main.toList :=
      fun d hd => ih (fun d hd => hothers d (List.mem_cons_of_mem e hd))
        (fun d hd d' hd' => h d (hsub d hd) d' (hsub d' hd')) hd
    have he : e ≠ "" := hothers e List.mem_cons_self
    have hturn := h e (List.mem_cons_of_mem main List.mem_cons_self) d hd
    rw [fold_cons he]
    by_cases hed : e = d
    · subst hed
      have hself := Text.substitute_append_self (by simpa using he : e.toList ≠ []) main.toList []
      rw [List.append_nil, Text.substitute_nil, List.append_nil] at hself
      rw [hself]
      exact hrest main List.mem_cons_self
    · rw [Text.substitute_of_not_infix fun hi => hed (hturn hi)]
      refine hrest d ?_
      rcases List.mem_cons.1 hd with rfl | hd
      · exact List.mem_cons_self
      · exact List.mem_cons_of_mem main ((List.mem_cons.1 hd).resolve_left (Ne.symm hed))

end Fragment

namespace Config

/-- Folded on its own, the text is the main delimiter. -/
def Folds (c : Config) (d : String) : Prop :=
  Fragment.fold c.main.toList c.delimiters.tail d.toList = c.main.toList

instance (c : Config) (d : String) : Decidable (c.Folds d) := inferInstanceAs (Decidable (_ = _))

/-- No delimiter stands in another. -/
def Unrelated (c : Config) : Prop :=
  ∀ d ∈ c.delimiters, ∀ e ∈ c.delimiters, d.toList <:+: e.toList → d = e

/-- The text has characters, and none of a delimiter. -/
def IsSegment (c : Config) (s : String) : Prop :=
  s ≠ "" ∧ ∀ d ∈ c.delimiters, Tree.Whole d.toList s

instance (c : Config) (s : String) : Decidable (c.IsSegment s) :=
  inferInstanceAs (Decidable (_ ∧ _))

variable {c : Config} {first : String} {rest : List (String × String)}

theorem Valid.exists_cons (hc : c.Valid) :
    ∃ main others,
      c.delimiters = main :: others ∧ c.main = main ∧ ∀ d ∈ main :: others, d ≠ "" := by
  obtain ⟨main, others, hcons⟩ := List.exists_cons_of_ne_nil hc.1
  refine ⟨main, others, hcons, ?_, ?_⟩
  · rw [Config.main, hcons]
    rfl
  · rintro d hd rfl
    exact hc.2 (hcons ▸ hd)

theorem folds_iff {main : String} {others : List String} (hcons : c.delimiters = main :: others)
    (hmain : c.main = main) (d : String) :
    c.Folds d ↔ Fragment.fold main.toList others d.toList = main.toList := by
  rw [Folds, hcons, hmain]
  rfl

theorem folds_of_unrelated (hc : c.Valid) (h : c.Unrelated) {d : String} (hd : d ∈ c.delimiters) :
    c.Folds d := by
  obtain ⟨main, others, hcons, hmain, hne⟩ := hc.exists_cons
  rw [Unrelated, hcons] at h
  rw [folds_iff hcons hmain]
  exact Fragment.fold_of_unrelated (fun d hd => hne d (List.mem_cons_of_mem main hd)) h (hcons ▸ hd)

theorem segments_eq_iff (hc : c.Valid) (hdelimiters : ∀ e ∈ rest, e.1 ∈ c.delimiters)
    (hparts : ∀ s ∈ first :: rest.map Prod.snd, c.IsSegment s) :
    (PathSpec.text (Text.joinWith first rest)).segments c.delimiters = first :: rest.map Prod.snd ↔
      ∀ e ∈ rest, c.Folds e.1 := by
  obtain ⟨main, others, hcons, hmain, hne⟩ := hc.exists_cons
  unfold IsSegment at hparts
  rw [List.forall_mem_cons, List.forall_mem_map, hcons] at hparts
  obtain ⟨⟨hfirst, hapart⟩, hrest⟩ := hparts
  simp only [folds_iff hcons hmain]
  rw [PathSpec.segments_text (Text.joinWith_ne_empty hfirst rest), hcons]
  apply Fragment.cut_joinWith_iff hne hapart
  intro e he
  exact ⟨hcons ▸ hdelimiters e he, hrest e he⟩

/-- Segments that have been put together with delimiters come back exactly when each of these
delimiters becomes the main one on its own; so any delimiters will do when none stands in another
one. -/
theorem segments_joinWith_iff (hc : c.Valid) (hdelimiters : ∀ e ∈ rest, e.1 ∈ c.delimiters)
    (hparts : ∀ s ∈ first :: rest.map Prod.snd, c.IsSegment s) :
    ((PathSpec.text (Text.joinWith first rest)).segments c.delimiters =
        first :: rest.map Prod.snd ↔ ∀ e ∈ rest, c.Folds e.1) ∧
      (c.Unrelated → (PathSpec.text (Text.joinWith first rest)).segments c.delimiters =
        first :: rest.map Prod.snd) := by
  have hiff := segments_eq_iff hc hdelimiters hparts
  refine ⟨hiff, fun hunrelated => hiff.2 fun e he => ?_⟩
  exact folds_of_unrelated hc hunrelated (hdelimiters e he)

/-- Delimiters of which one stands in another, and still each of them is folded to the main one. -/
theorem segments_joinWith_iff_doubled :
    let c : Config := { delimiters := [":", "::", "/"] }
    let rest := [("::", "b"), ("/", "c d"), (":", "e")]
    c.Valid ∧ (∀ e ∈ rest, e.1 ∈ c.delimiters) ∧
      (∀ s ∈ "a" :: rest.map Prod.snd, c.IsSegment s) ∧ Text.joinWith "a" rest = "a::b/c d:e" ∧
      (PathSpec.text "a::b/c d:e").segments c.delimiters = ["a", "b", "c d", "e"] := by
  intro c rest
  have hc : c.Valid := by decide
  have hdelimiters : ∀ e ∈ rest, e.1 ∈ c.delimiters := by decide
  have hparts : ∀ s ∈ "a" :: rest.map Prod.snd, c.IsSegment s := by decide
  exact ⟨hc, hdelimiters, hparts, rfl,
    (segments_joinWith_iff hc hdelimiters hparts).1.2 (by decide)⟩

/-- A delimiter that stands in the main one is folded within it as well, so that the main delimiter
no longer parts two segments. -/
theorem segments_joinWith_ne_nested :
    let c : Config := { delimiters := ["::", ":"] }
    c.Valid ∧ "::" ∈ c.delimiters ∧ (∀ s ∈ ["a", "b"], c.IsSegment s) ∧
      Text.joinWith "a" [("::", "b")] = "a::b" ∧
      (PathSpec.text "a::b").segments c.delimiters = ["a", "", "b"] := by
  decide

end Config

namespace Text

theorem grow_eq_modifyHead {ps : List (List Char)} (h : ps ≠ []) (c : Char) :
    grow c ps = ps.modifyHead (c :: ·) := by
  obtain ⟨p, ps, rfl⟩ := List.exists_cons_of_ne_nil h
  rfl

theorem length_cutAt (d : Char) (text : List Char) :
    (cutAt [d] text).length = text.count d + 1 := by
  induction text with
  | nil => rfl
  | cons c cs ih =>
    rw [cutAt_cons]
    by_cases hc : d = c
    · subst hc
      rw [if_pos rfl, List.length_cons, ih, List.count_cons_self]
    · rw [if_neg hc, grow_eq_modifyHead (cutAt_ne_nil [d] cs), List.length_modifyHead, ih,
        List.count_cons_of_ne (Ne.symm hc)]

theorem cutAt_map (main : Char) (others text : List Char) :
    cutAt [main] (text.map fun c => if c ∈ others then main else c) =
      text.splitOnP (· ∈ main :: others) := by
  induction text with
  | nil => rfl
  | cons c cs ih =>
    rw [List.map_cons, cutAt_cons, List.splitOnP_cons_eq_if_modifyHead, ih,
      grow_eq_modifyHead (List.splitOnP_ne_nil _ cs)]
    by_cases hmain : c = main
    · simp [hmain]
    · have hmain' : ¬ main = c := fun h => hmain h.symm
      by_cases ho : c ∈ others <;> simp [hmain, hmain', ho]

end Text

/-- When delimiters are single characters, a text is cut at each of them that is in it, and the
pieces are joined to the text with the main delimiter in the place of every other. -/
theorem PathSpec.segments_of_single_characters (main : Char) (others : List Char) {text : String}
    (h : text ≠ "") :
    let delimiters := main :: others
    let segments := (PathSpec.text text).segments (Tree.texts delimiters)
    segments.map String.toList = text.toList.splitOnP (· ∈ delimiters) ∧
      (∀ s ∈ segments, Tree.Whole delimiters s) ∧
      segments.length = text.toList.countP (· ∈ delimiters) + 1 ∧
      (Text.join (String.singleton main) segments).toList =
        text.toList.map fun c => if c ∈ delimiters then main else c := by
  intro delimiters segments
  have hcut : segments = (Text.cutAt [main]
      (text.toList.map fun c => if c ∈ others then main else c)).map String.ofList :=
    (segments_text h _).trans (Tree.cut_cons main others text)
  have hmap : segments.map String.toList =
      Text.cutAt [main] (text.toList.map fun c => if c ∈ others then main else c) := by
    rw [hcut, List.map_map]
    simp [Function.comp_def]
  refine ⟨hmap.trans (Text.cutAt_map main others text.toList), ?_, ?_, ?_⟩
  · intro s hs
    rw [show segments = Fragment.cut (Tree.texts delimiters) text from segments_text h _] at hs
    exact Tree.whole_of_mem_cut hs
  · rw [hcut, List.length_map, Text.length_cutAt, List.count, List.countP_map]
    refine congrArg (· + 1) (List.countP_congr fun c _ => ?_)
    by_cases ho : c ∈ others <;> simp [delimiters, ho]
  · rw [Text.toList_join, hmap, Text.intercalate_cutAt (List.cons_ne_nil main [])]
    refine List.map_congr_left fun c _ => ?_
    by_cases hc : c = main
    · subst hc
      simp [delimiters]
    · simp [delimiters, hc]

/-- Delimiters at both ends and next to each other, and one that is given twice. -/
theorem PathSpec.segments_of_single_characters_mixed :
    let segments := (PathSpec.text "/a.b//c.").segments (Tree.texts ['.', '/', '.'])
    "/a.b//c." ≠ "" ∧ segments = ["", "a", "b", "", "c", ""] ∧
      segments.length = "/a.b//c.".toList.countP (· ∈ ['.', '/', '.']) + 1 ∧
      (Text.join "." segments).toList = ".a.b..c.".toList := by
  intro segments
  have hne : "/a.b//c." ≠ "" := by decide
  obtain ⟨-, -, hlength, hjoin⟩ := segments_of_single_characters '.' ['/', '.'] hne
  exact ⟨hne, rfl, hlength, hjoin⟩

end NestedData
