import NestedData.Regex.Delimited
/-!
Delimited patterns and what they stand for. No flag is a delimiter, so the last delimiter of a
delimited text is the one that ends its body, however often the body holds it. Such a text stands
for its body with the flags in front, each once and in the order of their first places; any other
text stands for itself.
-/

namespace NestedData.Regex

variable {c d : Char} {cs before after flags body out seen : List Char} {text : String}

def IsFlag (c : Char) : Prop := c ∈ ['i', 'm', 's', 'x', 'U', 'u']

instance (c : Char) : Decidable (IsFlag c) := inferInstanceAs (Decidable (_ ∈ _))

theorem isFlag_iff : IsFlag c ↔ c ∈ inlineFlags ∨ c = idleFlag := by
  simp [IsFlag, inlineFlags, idleFlag, or_assoc]

theorem not_isFlag_of_mem_delimiters : ∀ d ∈ delimiters, ¬ IsFlag d := by
  simp [delimiters, IsFlag]

theorem idleFlag_not_mem_inlineFlags : idleFlag ∉ inlineFlags := by
  decide

theorem cutLast?_eq_none_iff : cutLast? d cs = none ↔ d ∉ cs := by
  induction cs with
  | nil => simp [cutLast?]
  | cons c cs ih =>
    rw [cutLast?, List.mem_cons, not_or, ← ih]
    cases cutLast? d cs with
    | some parts => simp
    | none =>
      by_cases hc : c = d
      · simp [hc]
      · simp [hc, Ne.symm hc]

theorem cutLast?_eq_some_iff :
    cutLast? d cs = some (before, after) ↔ cs = before ++ d :: after ∧ d ∉ after := by
  constructor
  · intro h
    induction cs generalizing before with
    | nil => cases h
    | cons c cs ih =>
      rw [cutLast?] at h
      cases hcut : cutLast? d cs with
      | some parts =>
        obtain ⟨b, a⟩ := parts
        rw [hcut] at h
        obtain ⟨rfl, rfl⟩ : c :: b = before ∧ a = after := by simpa using h
        obtain ⟨rfl, hafter⟩ := ih hcut
        exact ⟨rfl, hafter⟩
      | none =>
        rw [hcut] at h
        by_cases hc : c = d
        · obtain ⟨rfl, rfl⟩ : [] = before ∧ cs = after := by simpa [hc] using h
          exact ⟨congrArg (· :: cs) hc, cutLast?_eq_none_iff.1 hcut⟩
        · simp [hc] at h
  · rintro ⟨rfl, hafter⟩
    induction before with
    | nil => simp [cutLast?, cutLast?_eq_none_iff.2 hafter]
    | cons c before ih => simp [cutLast?, ih]

theorem cutLast?_of_flags (hd : d ∈ delimiters) (hflags : ∀ c ∈ flags, IsFlag c)
    (body : List Char) : cutLast? d (body ++ d :: flags) = some (body, flags) := by
  apply cutLast?_eq_some_iff.2
  refine ⟨rfl, fun h => ?_⟩
  exact not_isFlag_of_mem_delimiters d hd (hflags d h)

/-- The flags that say something and were not seen before, each at its first place. -/
def freshFlags (seen flags : List Char) : List Char :=
  (flags.filter fun c => c ≠ idleFlag ∧ c ∉ seen).eraseDups

theorem freshFlags_cons_of_idle (h : c = idleFlag ∨ c ∈ seen) (flags : List Char) :
    freshFlags seen (c :: flags) = freshFlags seen flags := by
  have hskip : ¬ (c ≠ idleFlag ∧ c ∉ seen) := by
    rintro ⟨hidle, hseen⟩
    exact h.elim hidle hseen
  rw [freshFlags, List.filter_cons_of_neg (by simpa using hskip), freshFlags]

theorem freshFlags_cons (hidle : c ≠ idleFlag) (hseen : c ∉ seen) (flags : List Char) :
    freshFlags seen (c :: flags) = c :: freshFlags (c :: seen) flags := by
  have hfilter : (fun a => !a == c && decide (a ≠ idleFlag ∧ a ∉ seen)) =
      fun a => decide (a ≠ idleFlag ∧ a ∉ c :: seen) := by
    funext a
    by_cases ha : a = c <;> simp [ha]
  rw [freshFlags, List.filter_cons_of_pos (by simp [hidle, hseen]), List.eraseDups_cons,
    List.filter_filter, hfilter, freshFlags]

theorem flagsOf?_eq_some_iff :
    flagsOf? seen flags = some out ↔ (∀ c ∈ flags, IsFlag c) ∧ out = freshFlags seen flags := by
  induction flags generalizing seen out with
  | nil => simp [flagsOf?, freshFlags, eq_comm]
  | cons c cs ih =>
    rw [flagsOf?, List.forall_mem_cons, isFlag_iff]
    by_cases hinline : c ∈ inlineFlags
    · have hidle : c ≠ idleFlag := fun h => idleFlag_not_mem_inlineFlags (h ▸ hinline)
      by_cases hseen : c ∈ seen
      · rw [if_pos hinline, if_pos hseen, ih, freshFlags_cons_of_idle (Or.inr hseen)]
        simp [hinline]
      · -- The flag is kept, and the rest is read with it among those seen.
        rw [if_pos hinline, if_neg hseen, freshFlags_cons hidle hseen, Option.map_eq_some_iff]
        constructor
        · rintro ⟨rest, hrest, rfl⟩
          obtain ⟨hflags, rfl⟩ := ih.1 hrest
          exact ⟨⟨Or.inl hinline, hflags⟩, rfl⟩
        · rintro ⟨⟨-, hflags⟩, rfl⟩
          exact ⟨_, ih.2 ⟨hflags, rfl⟩, rfl⟩
    · by_cases hidle : c = idleFlag
      · rw [if_neg hinline, if_pos hidle, ih, freshFlags_cons_of_idle (Or.inl hidle)]
        simp [hidle]
      · simp [hinline, hidle]

/-- The texts with a pattern of their own are those that begin with a delimiter, hold it again and
have nothing but flags after its last occurrence. -/
theorem undelimitedChars?_eq_some_iff : undelimitedChars? cs = some out ↔
    ∃ d body flags, d ∈ delimiters ∧ (∀ c ∈ flags, IsFlag c) ∧ cs = d :: (body ++ d :: flags) ∧
      out = withFlags (freshFlags [] flags) body := by
  constructor
  · intro h
    cases cs with
    | nil => cases h
    | cons d cs =>
      rw [undelimitedChars?] at h
      by_cases hd : d ∈ delimiters
      · rw [if_pos hd] at h
        obtain ⟨⟨body, flags⟩, hcut, h⟩ := Option.bind_eq_some_iff.1 h
        obtain ⟨read, hread, h⟩ := Option.bind_eq_some_iff.1 h
        obtain ⟨rfl, -⟩ := cutLast?_eq_some_iff.1 hcut
        obtain ⟨hflags, rfl⟩ := flagsOf?_eq_some_iff.1 hread
        exact ⟨d, body, flags, hd, hflags, rfl, (Option.some.inj h).symm⟩
      · rw [if_neg hd] at h
        cases h
  · rintro ⟨d, body, flags, hd, hflags, rfl, rfl⟩
    have hread : flagsOf? [] flags = some (freshFlags [] flags) :=
      flagsOf?_eq_some_iff.2 ⟨hflags, rfl⟩
    rw [undelimitedChars?, if_pos hd, cutLast?_of_flags hd hflags]
    simp [hread]

/-- The text is a delimiter, the body, the delimiter again and the flags. The body may hold the
delimiter too. -/
structure Enclosed (d : Char) (body flags text : String) : Prop where
  delimiter : d ∈ delimiters
  letters : ∀ c ∈ flags.toList, IsFlag c
  text_eq : text = String.singleton d ++ body ++ String.singleton d ++ flags

namespace Enclosed

variable {d' : Char} {body flags body' flags' : String}

theorem toList_eq (h : Enclosed d body flags text) :
    text.toList = d :: (body.toList ++ d :: flags.toList) := by
  rw [h.text_eq]
  simp

/-- The first character is the delimiter, and where it stands last the body ends. -/
theorem unique (h : Enclosed d body flags text) (h' : Enclosed d' body' flags' text) :
    d' = d ∧ body' = body ∧ flags' = flags := by
  have htext := h'.toList_eq.symm.trans h.toList_eq
  obtain ⟨rfl, hrest⟩ := List.cons.inj htext
  have hcut := cutLast?_of_flags h'.delimiter h'.letters body'.toList
  rw [hrest, cutLast?_of_flags h.delimiter h.letters] at hcut
  obtain ⟨hbody, hflags⟩ := Prod.mk.inj (Option.some.inj hcut)
  exact ⟨rfl, String.toList_inj.1 hbody.symm, String.toList_inj.1 hflags.symm⟩

theorem chars_eq (h : Enclosed d body flags text) :
    undelimitedChars? text.toList =
      some (withFlags (freshFlags [] flags.toList) body.toList) := by
  apply undelimitedChars?_eq_some_iff.2
  exact ⟨d, body.toList, flags.toList, h.delimiter, h.letters, h.toList_eq, rfl⟩

end Enclosed

theorem exists_enclosed_of_chars (h : undelimitedChars? text.toList = some out) :
    ∃ d body flags, Enclosed d body flags text := by
  obtain ⟨d, body, flags, hd, hflags, htext, -⟩ := undelimitedChars?_eq_some_iff.1 h
  refine ⟨d, String.ofList body, String.ofList flags, hd, by simpa using hflags, ?_⟩
  apply String.toList_inj.1
  rw [htext]
  simp

theorem freshFlags_eq_nil_iff : freshFlags [] flags = [] ↔ ∀ c ∈ flags, c = idleFlag := by
  simp [freshFlags, List.eq_nil_iff_forall_not_mem, List.mem_eraseDups]

theorem ofList_withFlags {flags : List Char} (h : flags ≠ []) (body : String) :
    String.ofList (withFlags flags body.toList) =
      "(?" ++ String.ofList flags ++ ")" ++ body := by
  apply String.toList_inj.1
  simp [withFlags, h]

/-- A delimited text, which is one in a single way, stands for its body if it has idle flags only,
and else for its body with the other flags in front, each once and in the order of their first
places. A text that is not delimited stands for itself. -/
theorem undelimited_decodes (text : String) :
    (∀ (d : Char) (body flags : String), Enclosed d body flags text →
      (undelimited text =
        if flags.toList.all (· = 'u') then body
        else "(?" ++ String.ofList (flags.toList.filter (· ≠ 'u')).eraseDups ++ ")" ++ body) ∧
      ∀ d' body' flags', Enclosed d' body' flags' text →
        d' = d ∧ body' = body ∧ flags' = flags) ∧
    ((∀ d body flags, ¬ Enclosed d body flags text) → undelimited text = text) := by
  constructor
  · intro d body flags h
    refine ⟨?_, fun d' body' flags' h' => h.unique h'⟩
    have hfresh : freshFlags [] flags.toList = (flags.toList.filter (· ≠ 'u')).eraseDups := by
      simp [freshFlags, idleFlag]
    rw [undelimited, h.chars_eq]
    by_cases hidle : ∀ c ∈ flags.toList, c = 'u'
    · rw [if_pos (by simpa using hidle), freshFlags_eq_nil_iff.2 hidle]
      exact String.ofList_toList
    · have hne : freshFlags [] flags.toList ≠ [] := fun h => hidle (freshFlags_eq_nil_iff.1 h)
      rw [if_neg (by simpa using hidle), ← hfresh]
      exact ofList_withFlags hne body
  · intro h
    cases hchars : undelimitedChars? text.toList with
    | none => rw [undelimited, hchars]
    | some out =>
      obtain ⟨d, body, flags, henclosed⟩ := exists_enclosed_of_chars hchars
      exact absurd henclosed (h d body flags)

/-- The body holds its delimiter, and flags are repeated and idle. A letter that is no flag leaves
a text as it is, and so does a delimiter that stands alone. -/
theorem undelimited_decodes_repeated :
    Enclosed '#' "a#b" "imuim" "#a#b#imuim" ∧ undelimited "#a#b#imuim" = "(?im)a#b" ∧
      Enclosed '/' "" "uu" "//uu" ∧ undelimited "//uu" = "" ∧
      ∀ text ∈ ["/a/q", "/", "a/b/i"], (∀ d body flags, ¬ Enclosed d body flags text) ∧
        undelimited text = text := by
  have hbody : Enclosed '#' "a#b" "imuim" "#a#b#imuim" :=
    ⟨by decide, by simp [IsFlag], by decide⟩
  have hidle : Enclosed '/' "" "uu" "//uu" := ⟨by decide, by simp [IsFlag], by decide⟩
  refine ⟨hbody, ?_, hidle, ?_, ?_⟩
  · exact ((undelimited_decodes _).1 _ _ _ hbody).1
  · exact ((undelimited_decodes _).1 _ _ _ hidle).1
  · intro text htext
    have hchars : undelimitedChars? text.toList = none := by
      revert text
      decide
    have hplain : ∀ d body flags, ¬ Enclosed d body flags text := by
      intro d body flags h
      rw [h.chars_eq] at hchars
      cases hchars
    exact ⟨hplain, (undelimited_decodes text).2 hplain⟩

end NestedData.Regex
