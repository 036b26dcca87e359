import NestedData.Json.Format
import NestedData.Proofs.Json.Literals
import NestedData.Proofs.Number.Reading
/-!
Values and their texts. What is read from a text as a value is nested no deeper than it may be,
repeats no key and keeps integers in range. A literal that denotes such a value, part by part, is
read as the value; what the compact text of a value is read as denotes it, as far as its binary
numbers are read back.
-/

namespace NestedData.Value

open NestedData.Json (Literal number?)
open NestedData.Json.Literal (value? values? entries?)

mutual
def depth : Value → ℕ
  | .array items => itemsDepth items + 1
  | .object members => membersDepth members + 1
  | _ => 0

def itemsDepth : List Value → ℕ
  | [] => 0
  | v :: rest => max (depth v) (itemsDepth rest)

def membersDepth : List (String × Value) → ℕ
  | [] => 0
  | (_, v) :: rest => max (depth v) (membersDepth rest)
end

mutual
def numbers : Value → List Number
  | .number n => [n]
  | .array items => itemNumbers items
  | .object members => memberNumbers members
  | _ => []

def itemNumbers : List Value → List Number
  | [] => []
  | v :: rest => numbers v ++ itemNumbers rest

def memberNumbers : List (String × Value) → List Number
  | [] => []
  | (_, v) :: rest => numbers v ++ memberNumbers rest
end

theorem depth_array_le {vs : List Value} {room : ℕ} :
    (array vs).depth ≤ room + 1 ↔ ∀ v ∈ vs, v.depth ≤ room := by
  rw [depth, Nat.add_le_add_iff_right]
  induction vs with
  | nil => simp [itemsDepth]
  | cons v vs ih => rw [itemsDepth, max_le_iff, ih, List.forall_mem_cons]

theorem depth_object_le {ms : List (String × Value)} {room : ℕ} :
    (object ms).depth ≤ room + 1 ↔ ∀ e ∈ ms, e.2.depth ≤ room := by
  rw [depth, Nat.add_le_add_iff_right]
  induction ms with
  | nil => simp [membersDepth]
  | cons e ms ih => rw [membersDepth, max_le_iff, ih, List.forall_mem_cons]

theorem mem_numbers_array {vs : List Value} {n : Number} :
    n ∈ (array vs).numbers ↔ ∃ v ∈ vs, n ∈ v.numbers := by
  rw [numbers]
  induction vs with
  | nil => simp [itemNumbers]
  | cons v vs ih => simp [itemNumbers, ih]

theorem mem_numbers_object {ms : List (String × Value)} {n : Number} :
    n ∈ (object ms).numbers ↔ ∃ e ∈ ms, n ∈ e.2.numbers := by
  rw [numbers]
  induction ms with
  | nil => simp [memberNumbers]
  | cons e ms ih =>
    rw [memberNumbers, List.mem_append, ih]
    simp

/-- The value is one that may be read where this many levels of nesting are left. -/
structure Fits (room : ℕ) (v : Value) : Prop where
  depth_le : v.depth ≤ room
  wellFormed : v.WellFormed
  inRange : ∀ n ∈ v.numbers, n.InRange

/-- The binary numbers in the value are read back from their texts. -/
def Exact (v : Value) : Prop := ∀ x, .binary x ∈ v.numbers → (Number.binary x).ReadsBack

theorem fits_array {room : ℕ} {vs : List Value} :
    (array vs).Fits (room + 1) ↔ ∀ v ∈ vs, v.Fits room := by
  constructor
  · intro h v hv
    refine ⟨depth_array_le.1 h.depth_le v hv, wellFormed_array.1 h.wellFormed v hv, ?_⟩
    intro n hn
    exact h.inRange n (mem_numbers_array.2 ⟨v, hv, hn⟩)
  · intro h
    refine ⟨depth_array_le.2 fun v hv => (h v hv).depth_le,
      wellFormed_array.2 fun v hv => (h v hv).wellFormed, ?_⟩
    intro n hn
    obtain ⟨v, hv, hnv⟩ := mem_numbers_array.1 hn
    exact (h v hv).inRange n hnv

theorem fits_object {room : ℕ} {ms : List (String × Value)} :
    (object ms).Fits (room + 1) ↔ Dict.Distinct ms ∧ ∀ e ∈ ms, e.2.Fits room := by
  constructor
  · intro h
    obtain ⟨hdistinct, hmembers⟩ := wellFormed_object.1 h.wellFormed
    refine ⟨hdistinct, fun e he => ⟨depth_object_le.1 h.depth_le e he, hmembers e he, ?_⟩⟩
    intro n hn
    exact h.inRange n (mem_numbers_object.2 ⟨e, he, hn⟩)
  · rintro ⟨hdistinct, h⟩
    refine ⟨depth_object_le.2 fun e he => (h e he).depth_le,
      wellFormed_object.2 ⟨hdistinct, fun e he => (h e he).wellFormed⟩, ?_⟩
    intro n hn
    obtain ⟨e, he, hne⟩ := mem_numbers_object.1 hn
    exact (h e he).inRange n hne

theorem exists_of_values? {room : ℕ} {ls : List Literal} {vs : List Value}
    (h : values? room ls = some vs) : ∀ v ∈ vs, ∃ l, value? room l = some v := by
  induction ls generalizing vs with
  | nil =>
    obtain rfl := Option.some.inj h
    simp
  | cons l ls ih =>
    rw [values?] at h
    obtain ⟨v, hv, h⟩ := Option.bind_eq_some_iff.1 h
    obtain ⟨ws, hws, h⟩ := Option.bind_eq_some_iff.1 h
    obtain rfl := Option.some.inj h
    exact List.forall_mem_cons.2 ⟨⟨l, hv⟩, ih hws⟩

theorem exists_of_entries? {room : ℕ} {ls : List (Option String × Literal)}
    {es : List (String × Value)} (h : entries? room ls = some es) :
    ∀ e ∈ es, ∃ l, value? room l = some e.2 := by
  induction ls generalizing es with
  | nil =>
    obtain rfl := Option.some.inj h
    simp
  | cons l ls ih =>
    obtain ⟨key, l⟩ := l
    rw [entries?] at h
    obtain ⟨k, -, h⟩ := Option.bind_eq_some_iff.1 h
    obtain ⟨v, hv, h⟩ := Option.bind_eq_some_iff.1 h
    obtain ⟨fs, hfs, h⟩ := Option.bind_eq_some_iff.1 h
    obtain rfl := Option.some.inj h
    exact List.forall_mem_cons.2 ⟨⟨l, hv⟩, ih hfs⟩

theorem value?_cases {room : ℕ} {l : Literal} {v : Value} (h : value? room l = some v) :
    (v.depth = 0 ∧ v.WellFormed ∧ ∀ n ∈ v.numbers, n.InRange) ∨
    (∃ r ls vs, room = r + 1 ∧ values? r ls = some vs ∧ v = .array vs) ∨
    (∃ r ls es, room = r + 1 ∧ entries? r ls = some es ∧ v = .object (Dict.ofEntries es)) := by
  cases l with
  | null =>
    obtain rfl : .null = v := by simpa [value?] using h
    exact Or.inl ⟨rfl, trivial, by simp [numbers]⟩
  | bool b =>
    obtain rfl : .bool b = v := by simpa [value?] using h
    exact Or.inl ⟨rfl, trivial, by simp [numbers]⟩
  | number l =>
    rw [value?] at h
    obtain ⟨n, hn, rfl⟩ := Option.map_eq_some_iff.1 h
    refine Or.inl ⟨rfl, trivial, fun m hm => ?_⟩
    rw [List.mem_singleton.1 hm]
    exact Number.inRange_of_ofLiteral? hn
  | string s =>
    rw [value?] at h
    obtain ⟨s, -, rfl⟩ := Option.map_eq_some_iff.1 h
    exact Or.inl ⟨rfl, trivial, by simp [numbers]⟩
  | array ls =>
    cases room with
    | zero => simp [value?] at h
    | succ r =>
      rw [value?] at h
      obtain ⟨vs, hvs, rfl⟩ := Option.map_eq_some_iff.1 h
      exact Or.inr (Or.inl ⟨r, ls, vs, rfl, hvs, rfl⟩)
  | object ls =>
    cases room with
    | zero => simp [value?] at h
    | succ r =>
      rw [value?] at h
      obtain ⟨es, hes, rfl⟩ := Option.map_eq_some_iff.1 h
      exact Or.inr (Or.inr ⟨r, ls, es, rfl, hes, rfl⟩)

theorem fits_of_value? {room : ℕ} {l : Literal} {v : Value} (h : value? room l = some v) :
    v.Fits room := by
  induction room using Nat.strong_induction_on generalizing l v with
  | _ room ih =>
    rcases value?_cases h with
      ⟨hd, hw, hn⟩ | ⟨r, ls, vs, rfl, hvs, rfl⟩ | ⟨r, ls, es, rfl, hes, rfl⟩
    · exact ⟨by omega, hw, hn⟩
    · refine fits_array.2 fun v hv => ?_
      obtain ⟨l, hl⟩ := exists_of_values? hvs v hv
      exact ih r (Nat.lt_succ_self r) hl
    · refine fits_object.2 ⟨Dict.distinct_ofEntries es, fun e he => ?_⟩
      obtain ⟨l, hl⟩ := exists_of_entries? hes e (Dict.mem_of_mem_ofEntries he)
      exact ih r (Nat.lt_succ_self r) hl

end NestedData.Value

namespace NestedData.Json

open Value (memberLiterals? itemLiterals?)

namespace Literal

mutual
/-- The literal is the value as it is written: part by part, in order and with the same keys. -/
def Denotes : Literal → Value → Prop
  | .null, .null => True
  | .bool a, .bool b => a = b
  | .number l, .number n => Number.ofLiteral? l = some n
  | .string content, .string s => content = some s
  | .array ls, .array vs => DenotesItems ls vs
  | .object ls, .object ms => DenotesMembers ls ms
  | _, _ => False

def DenotesItems : List Literal → List Value → Prop
  | [], [] => True
  | l :: ls, v :: vs => Denotes l v ∧ DenotesItems ls vs
  | _, _ => False

def DenotesMembers : List (Option String × Literal) → List (String × Value) → Prop
  | [], [] => True
  | (key, l) :: ls, (k, v) :: ms => key = some k ∧ Denotes l v ∧ DenotesMembers ls ms
  | _, _ => False
end

variable {room : ℕ} {l : Literal} {ls : List Literal} {ks : List (Option String × Literal)}
  {v : Value} {vs : List Value} {ms : List (String × Value)}

theorem denotes_array : l.Denotes (.array vs) ↔ ∃ ls, l = .array ls ∧ DenotesItems ls vs := by
  cases l <;> simp [Denotes]

theorem denotes_object : l.Denotes (.object ms) ↔ ∃ ks, l = .object ks ∧ DenotesMembers ks ms := by
  cases l <;> simp [Denotes]

theorem values?_of_denotes (h : DenotesItems ls vs)
    (hv : ∀ v ∈ vs, ∀ l : Literal, l.Denotes v → value? room l = some v) :
    values? room ls = some vs := by
  induction vs generalizing ls with
  | nil =>
    cases ls with
    | nil => rfl
    | cons l ls => cases h
  | cons v vs ih =>
    rw [List.forall_mem_cons] at hv
    cases ls with
    | nil => cases h
    | cons l ls =>
      obtain ⟨hl, hls⟩ := h
      simp [values?, hv.1 l hl, ih hls hv.2]

theorem entries?_of_denotes (h : DenotesMembers ks ms)
    (hv : ∀ e ∈ ms, ∀ l : Literal, l.Denotes e.2 → value? room l = some e.2) :
    entries? room ks = some ms := by
  induction ms generalizing ks with
  | nil =>
    cases ks with
    | nil => rfl
    | cons l ks => cases h
  | cons e ms ih =>
    rw [List.forall_mem_cons] at hv
    cases ks with
    | nil => cases h
    | cons l ks =>
      obtain ⟨key, l⟩ := l
      obtain ⟨rfl, hl, hks⟩ := h
      simp [entries?, hv.1 l hl, ih hks hv.2]

/-- What a literal denotes is read from it, if it fits. -/
theorem Denotes.value? (h : l.Denotes v) (hf : v.Fits room) : l.value? room = some v := by
  induction v generalizing l room with
  | null | bool | number | string => cases l <;> simp_all [Denotes, Literal.value?]
  | array vs ih =>
    obtain ⟨ls, rfl, hls⟩ := denotes_array.1 h
    cases room with
    | zero => exact absurd hf.depth_le (by simp [Value.depth])
    | succ r =>
      have hvs := values?_of_denotes hls fun v hv l hl => ih v hv hl (Value.fits_array.1 hf v hv)
      rw [Literal.value?, hvs, Option.map_some]
  | object ms ih =>
    obtain ⟨ks, rfl, hks⟩ := denotes_object.1 h
    cases room with
    | zero => exact absurd hf.depth_le (by simp [Value.depth])
    | succ r =>
      obtain ⟨hdistinct, hms⟩ := Value.fits_object.1 hf
      have hes := entries?_of_denotes hks fun e he l hl => ih e he hl (hms e he)
      rw [Literal.value?, hes, Option.map_some, Dict.ofEntries_of_distinct hdistinct]

theorem exists_denotesItems (h : ∀ v ∈ vs, ∃ l, v.literal? = some l ∧ l.Denotes v) :
    ∃ ls, itemLiterals? vs = some ls ∧ DenotesItems ls vs := by
  induction vs with
  | nil => exact ⟨[], rfl, trivial⟩
  | cons v vs ih =>
    rw [List.forall_mem_cons] at h
    obtain ⟨⟨l, hl, hlv⟩, hvs⟩ := h
    obtain ⟨ls, hls, hlvs⟩ := ih hvs
    exact ⟨l :: ls, by simp [itemLiterals?, hl, hls], hlv, hlvs⟩

theorem exists_denotesMembers (h : ∀ e ∈ ms, ∃ l, e.2.literal? = some l ∧ l.Denotes e.2) :
    ∃ ks, memberLiterals? ms = some ks ∧ DenotesMembers ks ms := by
  induction ms with
  | nil => exact ⟨[], rfl, trivial⟩
  | cons e ms ih =>
    rw [List.forall_mem_cons] at h
    obtain ⟨⟨l, hl, hlv⟩, hms⟩ := h
    obtain ⟨ks, hks, hkms⟩ := ih hms
    exact ⟨(some e.1, l) :: ks, by simp [memberLiterals?, hl, hks], rfl, hlv, hkms⟩

theorem exists_denotes (h : ∀ n ∈ v.numbers, n.ReadsBack) :
    ∃ l, v.literal? = some l ∧ l.Denotes v := by
  induction v with
  | null => exact ⟨.null, by simp [Value.literal?], trivial⟩
  | bool b => exact ⟨.bool b, by simp [Value.literal?], rfl⟩
  | string s => exact ⟨.string (some s), by simp [Value.literal?], rfl⟩
  | number n =>
    obtain ⟨l, hl, hln⟩ := Option.bind_eq_some_iff.1 (h n (by simp [Value.numbers]))
    exact ⟨.number l, by simp [Value.literal?, hl], hln⟩
  | array vs ih =>
    obtain ⟨ls, hls, hlvs⟩ := exists_denotesItems fun v hv =>
      ih v hv fun n hn => h n (Value.mem_numbers_array.2 ⟨v, hv, hn⟩)
    exact ⟨.array ls, by simp [Value.literal?, hls], hlvs⟩
  | object ms ih =>
    obtain ⟨ks, hks, hkms⟩ := exists_denotesMembers fun e he =>
      ih e he fun n hn => h n (Value.mem_numbers_object.2 ⟨e, he, hn⟩)
    exact ⟨.object ks, by simp [Value.literal?, hks], hkms⟩

end Literal

/-- What is written for the value is read as the value, part by part. -/
def Format.Keeps (F : Format) (v : Value) : Prop :=
  ∃ l, F.read? (F.write v) = some l ∧ l.Denotes v

theorem read?_write_compact (v : Value) : compact.read? (compact.write v) = v.literal? := by
  have hutf8 : String.fromUTF8? ⟨(compact.write v).toArray⟩ = some v.text := by
    rw [compact, Array.toArray_toList]
    exact dif_pos v.text.isValidUTF8
  show (String.fromUTF8? _).bind _ = _
  rw [hutf8, Option.bind_some, Value.ofText?_text]

/-- The compact text keeps what fits, if its binary numbers are read back. -/
theorem keeps_compact {room : ℕ} {v : Value} (hf : v.Fits room) (he : v.Exact) :
    compact.Keeps v := by
  unfold Format.Keeps
  rw [read?_write_compact]
  apply Literal.exists_denotes
  intro n hn
  cases n with
  | integer n => exact Number.readsBack_integer (hf.inRange _ hn)
  | binary x => exact he x hn

end NestedData.Json
