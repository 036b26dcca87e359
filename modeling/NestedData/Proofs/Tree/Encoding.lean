import NestedData.Tree.Text
import NestedData.Proofs.Json.RoundTrip
import NestedData.Proofs.Tree.Shape
/-!
Trees and their encodings. The tag of a node tells a leaf from a branch whatever the leaf holds and
however the children are called, so that a tree is decoded from its encoding, its children in their
order. And whatever is decoded is a tree whose encoding fits where it was read.
-/

namespace NestedData.Tree

open NestedData.Json (Literal)

theorem encodeChildren_eq (cs : List (String × Tree)) :
    encodeChildren cs = cs.map fun e => (e.1, e.2.encode) := by
  induction cs with
  | nil => rfl
  | cons e cs ih => rw [encodeChildren, ih, List.map_cons]

theorem keys_encodeChildren (cs : List (String × Tree)) :
    Dict.keys (encodeChildren cs) = Dict.keys cs := by
  rw [encodeChildren_eq, Dict.keys, Dict.keys, List.map_map]
  rfl

theorem fits_leaf {room : ℕ} {v : Value} : (leaf v).encode.Fits (room + 1) ↔ v.Fits room := by
  rw [encode, Value.fits_object]
  simp [Dict.Distinct, Dict.keys]

theorem fits_branch {room : ℕ} {cs : List (String × Tree)} :
    (branch cs).encode.Fits (room + 2) ↔
      Dict.Distinct cs ∧ ∀ e ∈ cs, e.2.encode.Fits room := by
  rw [encode, Value.fits_object, List.forall_mem_singleton, Value.fits_object, Dict.Distinct,
    Dict.Distinct, keys_encodeChildren, encodeChildren_eq, List.forall_mem_map]
  simp [Dict.Distinct, Dict.keys]

theorem decodeEntries?_of_denotes {room : ℕ} {ks : List (Option String × Literal)}
    {cs : List (String × Tree)} (h : Literal.DenotesMembers ks (encodeChildren cs))
    (hc : ∀ e ∈ cs, ∀ l : Literal, l.Denotes e.2.encode → decode? room l = some e.2) :
    decodeEntries? room ks = some cs := by
  induction cs generalizing ks with
  | nil =>
    cases ks with
    | nil => rfl
    | cons l ks => cases h
  | cons e cs ih =>
    rw [List.forall_mem_cons] at hc
    cases ks with
    | nil => cases h
    | cons l ks =>
      obtain ⟨key, l⟩ := l
      obtain ⟨rfl, hl, hks⟩ := h
      simp [decodeEntries?, hc.1 l hl, ih hks hc.2]

theorem denotes_tagged {tag : String} {v : Value} {l : Literal} :
    l.Denotes (.object [(tag, v)]) ↔ ∃ l', l = .object [(some tag, l')] ∧ l'.Denotes v := by
  rw [Literal.denotes_object]
  constructor
  · rintro ⟨ks, rfl, hks⟩
    match ks with
    | [(key, l')] =>
      obtain ⟨rfl, hl, -⟩ := hks
      exact ⟨l', rfl, hl⟩
  · rintro ⟨l', rfl, hl⟩
    exact ⟨_, rfl, rfl, hl, trivial⟩

/-- A tree is decoded from what denotes its encoding, if that fits. -/
theorem decode?_of_denotes {room : ℕ} {t : Tree} {l : Literal} (h : l.Denotes t.encode)
    (hf : t.encode.Fits room) : decode? room l = some t := by
  induction t generalizing l room with
  | leaf v =>
    obtain ⟨l, rfl, hl⟩ := denotes_tagged.1 h
    cases room with
    | zero => exact absurd hf.depth_le (by simp [encode, Value.depth])
    | succ r => simp [decode?, decodeTagged?, hl.value? (fits_leaf.1 hf)]
  | branch cs ih =>
    obtain ⟨l, rfl, hl⟩ := denotes_tagged.1 h
    obtain ⟨ks, rfl, hks⟩ := Literal.denotes_object.1 hl
    rcases room with _ | _ | r
    · exact absurd hf.depth_le (by simp [encode, Value.depth])
    · exact absurd hf.depth_le (by simp [encode, Value.depth, Value.membersDepth])
    · obtain ⟨hdistinct, hcs⟩ := fits_branch.1 hf
      have hes := decodeEntries?_of_denotes hks fun e he l hl => ih e he hl (hcs e he)
      have htags : branchTag ≠ leafTag := by decide
      simp [decode?, decodeTagged?, decodeChildren?, htags, hes,
        Dict.ofEntries_of_distinct hdistinct]

theorem exists_of_decodeEntries? {room : ℕ} {ls : List (Option String × Literal)}
    {es : List (String × Tree)} (h : decodeEntries? room ls = some es) :
    ∀ e ∈ es, ∃ l, decode? room l = some e.2 := by
  induction ls generalizing es with
  | nil =>
    rw [decodeEntries?] at h
    obtain rfl := Option.some.inj h
    simp
  | cons l ls ih =>
    obtain ⟨key, l⟩ := l
    rw [decodeEntries?] at h
    obtain ⟨k, -, h⟩ := Option.bind_eq_some_iff.1 h
    obtain ⟨t, ht, h⟩ := Option.bind_eq_some_iff.1 h
    obtain ⟨fs, hfs, h⟩ := Option.bind_eq_some_iff.1 h
    obtain rfl := Option.some.inj h
    exact List.forall_mem_cons.2 ⟨⟨l, ht⟩, ih hfs⟩

theorem decodeChildren?_cases {room : ℕ} {l : Literal} {cs : List (String × Tree)}
    (h : decodeChildren? room l = some cs) :
    ∃ r ls es, room = r + 1 ∧ decodeEntries? r ls = some es ∧ cs = Dict.ofEntries es := by
  unfold decodeChildren? at h
  split at h
  · obtain ⟨es, hes, rfl⟩ := Option.map_eq_some_iff.1 h
    exact ⟨_, _, es, rfl, hes, rfl⟩
  · cases h

theorem decode?_cases {room : ℕ} {l : Literal} {t : Tree} (h : decode? room l = some t) :
    (∃ r l' v, room = r + 1 ∧ Literal.value? r l' = some v ∧ t = .leaf v) ∨
    (∃ r ls es, room = r + 2 ∧ decodeEntries? r ls = some es ∧
      t = .branch (Dict.ofEntries es)) := by
  unfold decode? at h
  split at h
  · unfold decodeTagged? at h
    split at h
    · split_ifs at h
      · obtain ⟨v, hv, rfl⟩ := Option.map_eq_some_iff.1 h
        exact Or.inl ⟨_, _, v, rfl, hv, rfl⟩
      · obtain ⟨cs, hcs, rfl⟩ := Option.map_eq_some_iff.1 h
        obtain ⟨r, ls, es, rfl, hes, rfl⟩ := decodeChildren?_cases hcs
        exact Or.inr ⟨r, ls, es, rfl, hes, rfl⟩
    · cases h
  · cases h

theorem fits_of_decode? {room : ℕ} {l : Literal} {t : Tree} (h : decode? room l = some t) :
    t.encode.Fits room := by
  induction room using Nat.strong_induction_on generalizing l t with
  | _ room ih =>
    rcases decode?_cases h with ⟨r, l, v, rfl, hv, rfl⟩ | ⟨r, ls, es, rfl, hes, rfl⟩
    · exact fits_leaf.2 (Value.fits_of_value? hv)
    · refine fits_branch.2 ⟨Dict.distinct_ofEntries es, fun e he => ?_⟩
      obtain ⟨l, hl⟩ := exists_of_decodeEntries? hes e (Dict.mem_of_mem_ofEntries he)
      exact ih r (by omega) hl

end NestedData.Tree
