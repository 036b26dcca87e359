import NestedData.Regex.Cache
import Mathlib.Data.List.Induction
/-!
The cache of patterns seen from outside. Whatever a cache holds, the answer to a request is the
pattern of the requested text itself. A cache that starts empty holds the first patterns that it was
asked for, each under the text that it was asked for by, and keeps them.
-/

namespace NestedData.Regex.Cache

variable {P : Type} {compile? : String → Option P} {c d : Cache P} {text : String} {p : P}
  {answer : Option P}

/-- The ways in which a request is answered, and what each makes of the cache. -/
inductive Outcome (compile? : String → Option P) (c : Cache P) (text : String) :
    Option P → Cache P → Prop
  | found (p : P) (held : Dict.get? text c.entries = some p) : Outcome compile? c text (some p) c
  | refused (absent : Dict.get? text c.entries = none)
      (invalid : compile? (undelimited text) = none) : Outcome compile? c text none c
  | kept (p : P) (absent : Dict.get? text c.entries = none)
      (valid : compile? (undelimited text) = some p) (room : c.size < capacity) :
      Outcome compile? c text (some p) ⟨c.entries ++ [(text, p)]⟩
  | passed (p : P) (absent : Dict.get? text c.entries = none)
      (valid : compile? (undelimited text) = some p) (full : capacity ≤ c.size) :
      Outcome compile? c text (some p) c

theorem outcome_request (compile? : String → Option P) (c : Cache P) (text : String) :
    Outcome compile? c text (c.request compile? text).1 (c.request compile? text).2 := by
  unfold request
  cases held : Dict.get? text c.entries with
  | some p => exact .found p held
  | none =>
    cases hp : compile? (undelimited text) with
    | none => exact .refused held hp
    | some p =>
      by_cases room : c.size < capacity
      · simp only [if_pos room, Dict.insert_of_get?_eq_none held]
        exact .kept p held hp room
      · simp only [if_neg room]
        exact .passed p held hp (Nat.not_lt.1 room)

/-- Every entry is the pattern of its own text, no text has two entries, and there are not too many
of them. -/
structure Sound (compile? : String → Option P) (c : Cache P) : Prop where
  own : ∀ e ∈ c.entries, compile? (undelimited e.1) = some e.2
  distinct : Dict.Distinct c.entries
  bounded : c.size ≤ capacity

theorem sound_empty (compile? : String → Option P) : Sound compile? {} :=
  ⟨fun _ h => absurd h List.not_mem_nil, List.nodup_nil, Nat.zero_le _⟩

theorem Outcome.sound (h : Outcome compile? c text answer d) (hc : c.Sound compile?) :
    d.Sound compile? := by
  cases h with
  | found | refused | passed => exact hc
  | kept p absent hp room =>
    have hdistinct := hc.distinct.insert text p
    rw [Dict.insert_of_get?_eq_none absent] at hdistinct
    refine ⟨?_, hdistinct, ?_⟩
    · exact List.forall_mem_append.2 ⟨hc.own, List.forall_mem_singleton.2 hp⟩
    · rw [size, List.length_append, List.length_singleton]
      exact room

/-- Entries are found by the text as it was given, so the answer is the pattern of that text. -/
theorem Outcome.answer_eq (h : Outcome compile? c text answer d) (hc : c.Sound compile?) :
    answer = compile? (undelimited text) := by
  cases h with
  | found p held => exact (hc.own _ (Dict.mem_of_get? held)).symm
  | refused _ hp | kept _ _ hp | passed _ _ hp => exact hp.symm

theorem Outcome.grows (h : Outcome compile? c text answer d) : c.entries <+: d.entries := by
  cases h with
  | found | refused | passed => exact List.prefix_rfl
  | kept => exact List.prefix_append _ _

theorem requests_append (compile? : String → Option P) (c : Cache P) (texts more : List String) :
    (c.requests compile? (texts ++ more)).2 =
      ((c.requests compile? texts).2.requests compile? more).2 := by
  induction texts generalizing c with
  | nil => rfl
  | cons text texts ih => exact ih (c.request compile? text).2

theorem Sound.requests (hc : c.Sound compile?) (texts : List String) :
    (c.requests compile? texts).2.Sound compile? := by
  induction texts generalizing c with
  | nil => exact hc
  | cons text texts ih => exact ih ((outcome_request compile? c text).sound hc)

theorem Sound.answers (hc : c.Sound compile?) (texts : List String) :
    (c.requests compile? texts).1 = texts.map fun text => compile? (undelimited text) := by
  induction texts generalizing c with
  | nil => rfl
  | cons text texts ih =>
    have hstep := outcome_request compile? c text
    change (c.request compile? text).1 ::
      ((c.request compile? text).2.requests compile? texts).1 = _
    rw [hstep.answer_eq hc, ih (hstep.sound hc), List.map_cons]

theorem grows_requests (compile? : String → Option P) (c : Cache P) (texts : List String) :
    c.entries <+: (c.requests compile? texts).2.entries := by
  induction texts generalizing c with
  | nil => exact List.prefix_rfl
  | cons text texts ih => exact (outcome_request compile? c text).grows.trans (ih _)

/-- The requested texts that are patterns, each with its pattern, in the order in which they were
first asked for. -/
def wanted (compile? : String → Option P) (texts : List String) : List (String × P) :=
  texts.eraseDups.filterMap fun text => (compile? (undelimited text)).map (text, ·)

variable {texts : List String}

theorem mem_wanted : (text, p) ∈ wanted compile? texts ↔
    text ∈ texts ∧ compile? (undelimited text) = some p := by
  simp only [wanted, List.mem_filterMap, List.mem_eraseDups, Option.map_eq_some_iff, Prod.mk.injEq]
  constructor
  · rintro ⟨t, ht, q, hq, rfl, rfl⟩
    exact ⟨ht, hq⟩
  · rintro ⟨ht, hp⟩
    exact ⟨text, ht, p, hp, rfl, rfl⟩

theorem wanted_concat (compile? : String → Option P) (texts : List String) (text : String) :
    wanted compile? (texts ++ [text]) = wanted compile? texts ++
      if text ∈ texts then [] else ((compile? (undelimited text)).map (text, ·)).toList := by
  unfold wanted
  rw [List.eraseDups_append, List.filterMap_append]
  by_cases h : text ∈ texts
  · simp [List.removeAll, h]
  · have hnew : ([text].removeAll texts).eraseDups = [text] := by
      simp [List.removeAll, h, List.eraseDups_cons]
    rw [hnew, if_neg h]
    cases hp : compile? (undelimited text) <;> simp [hp]

/-- A cache with the first of the wanted patterns stays one, whatever is asked for next. -/
theorem Outcome.entries_eq (h : Outcome compile? c text answer d)
    (hc : c.entries = (wanted compile? texts).take capacity) :
    d.entries = (wanted compile? (texts ++ [text])).take capacity := by
  have hsize : c.size = min capacity (wanted compile? texts).length := by
    rw [size, hc, List.length_take]
  rw [wanted_concat]
  cases h with
  | found p held =>
    have hmem : (text, p) ∈ wanted compile? texts :=
      List.mem_of_mem_take (hc ▸ Dict.mem_of_get? held)
    rw [if_pos (mem_wanted.1 hmem).1, List.append_nil, hc]
  | refused _ invalid =>
    rw [invalid, Option.map_none, Option.toList_none, ite_self, List.append_nil, hc]
  | kept p absent valid room =>
    have hall : (wanted compile? texts).take capacity = wanted compile? texts :=
      List.take_of_length_le (by omega)
    have hnew : text ∉ texts := by
      intro hmem
      have hentry : (text, p) ∈ c.entries := by
        rw [hc, hall]
        exact mem_wanted.2 ⟨hmem, valid⟩
      exact Dict.get?_eq_none_iff.1 absent (List.mem_map_of_mem hentry)
    rw [if_neg hnew, valid, hc, hall]
    refine (List.take_of_length_le ?_).symm
    simp only [List.length_append, List.length_singleton]
    omega
  | passed p absent valid full =>
    rw [List.take_append_of_le_length (by omega), hc]

theorem entries_requests (compile? : String → Option P) (texts : List String) :
    (requests compile? {} texts).2.entries = (wanted compile? texts).take capacity := by
  induction texts using List.reverseRecOn with
  | nil => rfl
  | append_singleton texts text ih =>
    rw [requests_append]
    exact (outcome_request compile? _ text).entries_eq ih

/-- Requests to a new cache are answered as if each text were compiled afresh. After any of them the
cache has at most 32 entries, each the pattern of a text that was requested; what is no pattern has
none; and whatever is requested next, every entry stays as it is. It is the first texts that have
entries. -/
theorem requests_transparent (compile? : String → Option P) (texts more : List String) :
    let run := requests compile? {} texts
    let later := requests compile? {} (texts ++ more)
    run.1 = texts.map (fun text => compile? (undelimited text)) ∧
    run.2.size ≤ 32 ∧ Dict.Distinct run.2.entries ∧
    (∀ text p, Dict.get? text run.2.entries = some p →
      text ∈ texts ∧ compile? (undelimited text) = some p ∧
        Dict.get? text later.2.entries = some p) ∧
    run.2.entries <+: later.2.entries ∧
    run.2.entries = (wanted compile? texts).take 32 := by
  intro run later
  have hsound : run.2.Sound compile? := (sound_empty compile?).requests texts
  have hentries : run.2.entries = (wanted compile? texts).take capacity :=
    entries_requests compile? texts
  have hgrows : run.2.entries <+: later.2.entries := by
    have hlater : later.2 = (run.2.requests compile? more).2 :=
      requests_append compile? {} texts more
    rw [hlater]
    exact grows_requests compile? run.2 more
  have hanswers := (sound_empty compile?).answers texts
  refine ⟨hanswers, hsound.bounded, hsound.distinct, ?_, hgrows, hentries⟩
  intro text p held
  have hmem : (text, p) ∈ run.2.entries := Dict.mem_of_get? held
  have hwanted : (text, p) ∈ wanted compile? texts := List.mem_of_mem_take (hentries ▸ hmem)
  obtain ⟨htext, hp⟩ := mem_wanted.1 hwanted
  have hlater : later.2.Sound compile? := (sound_empty compile?).requests (texts ++ more)
  exact ⟨htext, hp, Dict.get?_of_mem hlater.distinct (hgrows.subset hmem)⟩

end NestedData.Regex.Cache
