import NestedData.Session
import NestedData.Proofs.Tree.Encoding
/-!
Restoring from snapshots, in any format. What is read from the octets of a snapshot is decided by
its tree and by its delimiters alone: the tree must be decoded, and the delimiters must be valid. So
a handle with a valid configuration is restored with the same node wherever the format keeps the
value that is written, and what has once been restored is restored again.
-/

namespace NestedData

theorem Config.problem?_eq_none_iff {c : Config} : c.problem? = none ↔ c.Valid := by
  unfold Config.problem? Config.Valid
  cases c.delimiters with
  | nil => simp
  | cons d ds =>
    rw [if_neg (by simp), Option.map_eq_none_iff, List.findIdx?_eq_none_iff]
    simp only [ne_eq, reduceCtorEq, not_false_eq_true, true_and, String.isEmpty_eq_false_iff]
    constructor
    · intro h hm
      exact h "" hm rfl
    · rintro h d hd rfl
      exact h hd

namespace Snapshot

open NestedData.Json (Literal)

variable {F : Json.Format} {s : Snapshot}

theorem decodeDelimiters?_of_denotes {ds : List String} {l : Literal}
    (h : l.Denotes (.array (ds.map .string))) : Config.decodeDelimiters? l = some ds := by
  obtain ⟨ls, rfl, hls⟩ := Literal.denotes_array.1 h
  rw [Config.decodeDelimiters?]
  induction ds generalizing ls with
  | nil =>
    cases ls with
    | nil => rfl
    | cons l ls => cases hls
  | cons d ds ih =>
    cases ls with
    | nil => cases hls
    | cons l ls =>
      obtain ⟨hl, hls⟩ := hls
      cases l with
      | string content =>
        obtain rfl : content = some d := hl
        simp [ih ls (Literal.denotes_array.2 ⟨ls, rfl, hls⟩) hls]
      | _ => cases hl

theorem decodeBool?_of_denotes {b : Bool} {l : Literal} (h : l.Denotes (.bool b)) :
    Config.decodeBool? l = some b := by
  cases l with
  | bool a => exact congrArg some h
  | _ => cases h

theorem decode?_of_denotes {tree delimiters forceCreate : Literal}
    (hd : delimiters.Denotes (.array (s.delimiters.map .string)))
    (hf : forceCreate.Denotes (.bool s.forceCreate)) :
    decode? (.array [tree, delimiters, forceCreate]) =
      (Tree.decode? (Json.depthLimit - 1) tree).map fun t => { s with tree := t } := by
  rw [decode?, decodeDelimiters?_of_denotes hd, decodeBool?_of_denotes hf]
  cases Tree.decode? (Json.depthLimit - 1) tree <;> rfl

theorem fits_value :
    s.value.Fits Json.depthLimit ↔ s.tree.encode.Fits (Json.depthLimit - 1) := by
  have hstrings : (Value.array (s.delimiters.map .string)).Fits (Json.depthLimit - 1) := by
    refine Value.fits_array.2 fun v hv => ?_
    obtain ⟨d, -, rfl⟩ := List.mem_map.1 hv
    exact ⟨Nat.zero_le _, trivial, by simp [Value.numbers]⟩
  have hbool : (Value.bool s.forceCreate).Fits (Json.depthLimit - 1) :=
    ⟨Nat.zero_le _, trivial, by simp [Value.numbers]⟩
  rw [value, show Json.depthLimit = Json.depthLimit - 1 + 1 from rfl, Value.fits_array]
  simp [hstrings, hbool]

/-- A snapshot that is kept is decoded from what its octets are read as. -/
theorem decode?_of_keeps (hk : F.Keeps s.value) (hf : s.value.Fits Json.depthLimit) :
    (F.read? (s.octets F)).bind decode? = some s := by
  obtain ⟨l, hread, hl⟩ := hk
  obtain ⟨ls, rfl, hls⟩ := Literal.denotes_array.1 hl
  match ls with
  | [tree, delimiters, forceCreate] =>
    obtain ⟨ht, hd, hb, -⟩ := hls
    rw [octets, hread, Option.bind_some, decode?_of_denotes hd hb,
      Tree.decode?_of_denotes ht (fits_value.1 hf), Option.map_some]

theorem ofOctets_eq_ok_iff {octets : List UInt8} : ofOctets F octets = .ok s ↔
    (F.read? octets).bind decode? = some s ∧ s.config.Valid := by
  unfold ofOctets
  cases (F.read? octets).bind decode? with
  | none => simp
  | some r =>
    dsimp only
    rw [← Config.problem?_eq_none_iff, Option.some.injEq]
    cases hr : r.config.problem? with
    | none =>
      constructor
      · intro h
        obtain rfl := Except.ok.inj h
        exact ⟨rfl, hr⟩
      · rintro ⟨rfl, -⟩
        rfl
    | some e =>
      constructor
      · intro h
        cases h
      · rintro ⟨rfl, hs⟩
        cases hr.symm.trans hs

theorem valid_and_fits_of_ofOctets {octets : List UInt8} (h : ofOctets F octets = .ok s) :
    s.config.Valid ∧ s.value.Fits Json.depthLimit := by
  obtain ⟨hread, hvalid⟩ := ofOctets_eq_ok_iff.1 h
  obtain ⟨l, -, hl⟩ := Option.bind_eq_some_iff.1 hread
  refine ⟨hvalid, fits_value.2 ?_⟩
  unfold decode? at hl
  split at hl
  · obtain ⟨t, ht, hl⟩ := Option.bind_eq_some_iff.1 hl
    obtain ⟨ds, -, hl⟩ := Option.bind_eq_some_iff.1 hl
    obtain ⟨f, -, hl⟩ := Option.bind_eq_some_iff.1 hl
    obtain rfl := Option.some.inj hl
    exact Tree.fits_of_decode? ht
  · cases hl

/-- A snapshot that is kept is restored from its own octets exactly when any octets can restore
it. -/
theorem ofOctets_octets_iff (hk : F.Keeps s.value) :
    ofOctets F (s.octets F) = .ok s ↔ s.config.Valid ∧ s.value.Fits Json.depthLimit := by
  constructor
  · exact valid_and_fits_of_ofOctets
  · rintro ⟨hvalid, hfits⟩
    exact ofOctets_eq_ok_iff.2 ⟨decode?_of_keeps hk hfits, hvalid⟩

theorem config_of_decode?_compact {r : Snapshot}
    (h : (Json.compact.read? (s.octets Json.compact)).bind decode? = some r) :
    r.config = s.config := by
  have hdelimiters : ∃ l, (Value.array (s.delimiters.map .string)).literal? = some l ∧
      l.Denotes (.array (s.delimiters.map .string)) := by
    apply Literal.exists_denotes
    intro n hn
    obtain ⟨v, hv, hn⟩ := Value.mem_numbers_array.1 hn
    obtain ⟨d, -, rfl⟩ := List.mem_map.1 hv
    cases hn
  obtain ⟨ld, hld, hdenotes⟩ := hdelimiters
  rw [octets, Json.read?_write_compact, value, Value.literal?] at h
  cases htree : s.tree.encode.literal? with
  | none => simp [Value.itemLiterals?, htree] at h
  | some lt =>
    have hflag : Literal.Denotes (.bool s.forceCreate) (.bool s.forceCreate) := rfl
    have hread : decode? (.array [lt, ld, .bool s.forceCreate]) = some r := by
      rw [Value.itemLiterals?, htree, Value.itemLiterals?, hld] at h
      exact h
    rw [decode?_of_denotes hdenotes hflag] at hread
    obtain ⟨t, -, rfl⟩ := Option.map_eq_some_iff.1 hread
    rfl

/-- A compact snapshot is rejected for its configuration only when that is invalid, whatever its
tree. -/
theorem not_valid_of_invalid {e : ConfigError}
    (h : ofOctets Json.compact (s.octets Json.compact) = .error (.invalid e)) :
    ¬ s.config.Valid := by
  intro hvalid
  unfold ofOctets at h
  cases hread : (Json.compact.read? (s.octets Json.compact)).bind decode? with
  | none =>
    rw [hread] at h
    cases h
  | some r =>
    rw [hread] at h
    dsimp only at h
    rw [config_of_decode?_compact hread, Config.problem?_eq_none_iff.2 hvalid] at h
    cases h

end Snapshot

open Snapshot in
/-- A handle with a valid configuration, whose snapshot is not nested too deep to be read and is
kept by the format, is restored as a handle on a tree of its own, with the same node, delimiters and
choice on making what is missing, and the strict policy. What has been restored from any octets is
not nested too deep, and is restored from its own octets if the format keeps it. The compact format
keeps all that fits, as far as binary numbers are read back from their texts. -/
theorem Session.restored_from_snapshot (F : Json.Format) :
    (∀ (s : Session) (i : ℕ) (h : Handle), s.handle? i = some h → h.view.config.Valid →
      (ofView h.view (s.treeOf h)).value.Fits Json.depthLimit →
      F.Keeps (ofView h.view (s.treeOf h)).value →
      ∃ read u c, ofOctets F ((ofView h.view (s.treeOf h)).octets F) = .ok read ∧
        s.step i (.restore read) = .ok u ∧ u.handle? s.handles.length = some c ∧
        c = ⟨s.trees.length, ⟨[], { h.view.config with policy := .strict }⟩, false⟩ ∧
        u.data c = s.data h ∧ ((s.treeOf h).find? h.view.base = none → u.data c = .empty)) ∧
    (∀ octets read, ofOctets F octets = .ok read → read.value.Fits Json.depthLimit ∧
      (F.Keeps read.value →
        ofOctets F ((ofView ⟨[], read.config⟩ read.tree).octets F) = .ok read)) ∧
    ∀ v : Value, v.Fits Json.depthLimit → v.Exact → Json.compact.Keeps v := by
  refine ⟨?_, ?_, fun v => Json.keeps_compact⟩
  · intro s i h hh hvalid hfits hkept
    have hread := (ofOctets_octets_iff hkept).2 ⟨hvalid, hfits⟩
    let c : Handle := ⟨s.trees.length, ⟨[], { h.view.config with policy := .strict }⟩, false⟩
    let u := s.addTree (s.data h) c.view.config false
    have hstep : s.step i (.restore (ofView h.view (s.treeOf h))) = .ok u := by
      unfold step after
      rw [hh]
      rfl
    have hc : u.handle? s.handles.length = some c := List.getElem?_concat_length
    have hdata : u.data c = s.data h := by
      change ((s.trees ++ [s.data h])[s.trees.length]?).getD .empty = s.data h
      rw [List.getElem?_concat_length, Option.getD_some]
    refine ⟨_, u, c, hread, hstep, hc, rfl, hdata, fun hmissing => ?_⟩
    rw [hdata, data, View.data, hmissing, Option.getD_none]
  · intro octets read hread
    have hread : read.config.Valid ∧ read.value.Fits Json.depthLimit :=
      valid_and_fits_of_ofOctets hread
    exact ⟨hread.2, fun hkept => (ofOctets_octets_iff hkept).2 hread⟩

open Snapshot in
/-- A silent view of a branch whose leaf looks like an encoded one, beside a key that a path would
cut. -/
theorem Session.restored_from_snapshot_of_view :
    let n : Number := .binary ⟨false, 0x4341C37937E08000, by decide⟩
    let leaf : Value := .object [(Tree.leafTag, .number n)]
    let node : Tree := .branch [("b", .leaf leaf), ("a.b", .empty)]
    let t : Tree := .branch [("k", node)]
    let w : View := ⟨["k"], { delimiters := ["/", "."], policy := .silent }⟩
    let s : Session := ⟨[t], [⟨0, w, true⟩]⟩
    let read := ofView w t
    String.ofList n.text = "1e+16" ∧
      ofOctets Json.compact (read.octets Json.compact) = .ok read ∧
      ofOctets Json.compact ((ofView ⟨[], read.config⟩ read.tree).octets Json.compact) = .ok read ∧
      ∃ u c, s.step 0 (.restore read) = .ok u ∧ u.handle? 1 = some c ∧
        c.view.config = { delimiters := ["/", "."], policy := .strict } ∧
        u.data c = node := by
  intro n leaf node t w s read
  have hexact : read.value.Exact := by
    intro x hx
    have hx : Number.binary x ∈ [n] := hx
    obtain rfl := Number.binary.inj (List.mem_singleton.1 hx)
    decide +kernel
  have hleaf : leaf.Fits 123 := by
    have hnumber : (Value.number n).Fits 122 :=
      ⟨Nat.zero_le _, trivial, by simp [Value.numbers, n, Number.InRange]⟩
    exact Value.fits_object.2 ⟨List.nodup_singleton _, by simpa using hnumber⟩
  have hfits : read.value.Fits Json.depthLimit := by
    refine fits_value.2 (Tree.fits_branch.2 ⟨by decide, ?_⟩)
    simp [Tree.fits_leaf, Tree.fits_branch, Tree.empty, hleaf, Dict.Distinct, Dict.keys]
  obtain ⟨hrestored, hagain, hkeeps⟩ := restored_from_snapshot Json.compact
  have hkept : Json.compact.Keeps read.value := hkeeps _ hfits hexact
  obtain ⟨read', u, c, hread', hstep, hc, rfl, hdata, -⟩ :=
    hrestored s 0 ⟨0, w, true⟩ rfl (by decide) hfits hkept
  have hread := (ofOctets_octets_iff hkept).2 ⟨by decide, hfits⟩
  obtain rfl := Except.ok.inj (hread.symm.trans hread')
  exact ⟨by decide +kernel, hread, (hagain _ _ hread).2 hkept, u, _, hstep, hc, rfl, hdata⟩

end NestedData
