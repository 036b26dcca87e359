import NestedData.Proofs.Session.Runs
import NestedData.Proofs.Snapshot.Restoring
/-!
Configurations through runs. Handles start with valid configurations and pass theirs on, and a
snapshot that has been read brings a valid one; but delimiters are added to a handle unchecked. So
configurations stay valid, and snapshots can be restored, exactly as long as no empty delimiter is
added.
-/

namespace NestedData

theorem Config.Valid.of_delimiters_eq {c c' : Config} (h : c.Valid)
    (he : c'.delimiters = c.delimiters) : c'.Valid := by
  unfold Config.Valid
  rw [he]
  exact h

theorem Config.Valid.addDelimiters {c : Config} {more : List String} (h : c.Valid)
    (hm : "" ∉ more) : (c.addDelimiters more).Valid := by
  constructor
  · exact List.append_ne_nil_of_left_ne_nil h.1 more
  · intro he
    rcases List.mem_append.1 he with he | he
    · exact h.2 he
    · exact hm he

namespace Session

open Snapshot (ofOctets ofView)

variable {s u : Session} {i : ℕ} {h : Handle} {c : Command} {commands : List (ℕ × Command)}

def Configured (s : Session) : Prop := ∀ h ∈ s.handles, h.view.config.Valid

instance (s : Session) : Decidable s.Configured :=
  inferInstanceAs (Decidable (∀ h ∈ s.handles, h.view.config.Valid))

theorem Change.configured (hu : Change s i h c u) (hs : s.Configured) (hi : s.handle? i = some h)
    (hadds : ∀ ds, c = .addDelimiters ds → h.dotted = false → "" ∉ ds)
    (hrestores : ∀ snapshot, c = .restore snapshot → snapshot.config.Valid) : u.Configured := by
  have hh : h.view.config.Valid := hs h (mem_of_handle? hi)
  cases hu with
  | edit => exact hs
  | configure _ config hconfig => exact forall_setConfig hs (hh.of_delimiters_eq hconfig)
  | extend ds hdotted => exact forall_setConfig hs (hh.addDelimiters (hadds ds rfl hdotted))
  | narrow path view hview =>
    have hview' : view.config.Valid := by
      rw [View.eq_of_narrow hview]
      exact hh
    exact forall_addHandle hs hview'
  | separate _ t dotted => exact forall_addHandle hs hh
  | restore snapshot => exact forall_addHandle hs (hrestores snapshot rfl)

/-- An empty delimiter is added to a handle whose delimiters are not fixed. -/
def AddsEmptyDelimiter (s : Session) (commands : List (ℕ × Command)) : Prop :=
  ∃ before i ds rest h, commands = before ++ (i, .addDelimiters ds) :: rest ∧
    (s.run before).handle? i = some h ∧ h.dotted = false ∧ "" ∈ ds

def RestoresRead (commands : List (ℕ × Command)) : Prop :=
  ∀ i snapshot, (i, .restore snapshot) ∈ commands →
    ∃ octets, ofOctets Json.compact octets = .ok snapshot

theorem AddsEmptyDelimiter.append (ha : s.AddsEmptyDelimiter commands)
    (more : List (ℕ × Command)) : s.AddsEmptyDelimiter (commands ++ more) := by
  obtain ⟨before, i, ds, rest, h, rfl, hi, hdotted, hds⟩ := ha
  exact ⟨before, i, ds, rest ++ more, h, by rw [List.append_assoc, List.cons_append], hi, hdotted,
    hds⟩

theorem configured_run (hs : s.Configured) (hr : RestoresRead commands)
    (ha : ¬ s.AddsEmptyDelimiter commands) : (s.run commands).Configured := by
  induction commands using List.reverseRecOn with
  | nil => exact hs
  | append_singleton commands command ih =>
    obtain ⟨i, c⟩ := command
    have hrun : (s.run commands).Configured :=
      ih (fun j snapshot hm => hr j snapshot (List.mem_append_left _ hm)) fun h => ha (h.append _)
    rw [run_concat]
    cases hi : (s.run commands).handle? i with
    | none => rwa [after_of_handle?_eq_none hi]
    | some h =>
      apply (change_after hi c).configured hrun hi
      · rintro ds rfl hdotted hds
        exact ha ⟨commands, i, ds, [], h, rfl, hi, hdotted, hds⟩
      · rintro snapshot rfl
        obtain ⟨octets, hoctets⟩ := hr i snapshot (by simp)
        exact (Snapshot.valid_and_fits_of_ofOctets hoctets).1

/-- No command takes an empty delimiter away again. -/
theorem not_configured_run (ha : s.AddsEmptyDelimiter commands) :
    ¬ (s.run commands).Configured := by
  obtain ⟨before, i, ds, rest, h, rfl, hi, hdotted, hds⟩ := ha
  have hextended : ((s.run before).after i (.addDelimiters ds)).handle? i =
      some { h with view := { h.view with config := h.view.config.addDelimiters ds } } := by
    rw [after_addDelimiters hi hdotted]
    exact handle?_setConfig_self hi _
  obtain ⟨h', hh', hl⟩ := later_run hextended rest
  have hempty : "" ∈ h'.view.config.delimiters :=
    hl.delimiters_prefix.subset (List.mem_append_right _ hds)
  intro hconfigured
  rw [run_append] at hconfigured
  exact (hconfigured h' (mem_of_handle? hh')).2 hempty

/-- Configurations stay valid, and no snapshot is rejected for its configuration, exactly when no
empty delimiter is added. -/
theorem configured_iff_no_empty_delimiter (s : Session) (commands : List (ℕ × Command))
    (hs : s.Configured) (hr : RestoresRead commands) :
    ((s.run commands).Configured ∧ ∀ h ∈ (s.run commands).handles, ∀ e,
      ofOctets Json.compact ((ofView h.view ((s.run commands).treeOf h)).octets Json.compact) ≠
        .error (.invalid e)) ↔
    ¬ s.AddsEmptyDelimiter commands := by
  constructor
  · rintro ⟨hconfigured, -⟩ ha
    exact not_configured_run ha hconfigured
  · intro ha
    have hconfigured := configured_run hs hr ha
    refine ⟨hconfigured, fun h hh e he => ?_⟩
    have hvalid : h.view.config.Valid := hconfigured h hh
    exact Snapshot.not_valid_of_invalid he (hvalid.of_delimiters_eq rfl)

/-- A view, a delimiter of its own and a handle restored from a snapshot. -/
theorem configured_of_narrow_and_restore :
    let s := ofTree (.branch [("a", .leaf .null)]) {} false
    let snapshot : Snapshot := ⟨.empty, ["/"], true⟩
    let commands := [(0, .narrow (.text "a")), (1, .addDelimiters ["::"]), (0, .restore snapshot)]
    s.Configured ∧ RestoresRead commands ∧ (s.run commands).handles.length = 3 ∧
      (s.run commands).Configured := by
  intro s snapshot commands
  have hs : s.Configured := by decide
  have hread : ofOctets Json.compact (snapshot.octets Json.compact) = .ok snapshot := by
    rw [ofOctets, Snapshot.octets, Json.read?_write_compact]
    rfl
  have hr : RestoresRead commands := by
    intro i read hm
    obtain ⟨-, rfl⟩ : i = 0 ∧ read = snapshot := by simpa [commands] using hm
    exact ⟨_, hread⟩
  have ha : ¬ s.AddsEmptyDelimiter commands := by
    rintro ⟨before, i, ds, rest, -, he, -, -, hds⟩
    have hm : (i, .addDelimiters ds) ∈ commands := he ▸ List.mem_append_right _ List.mem_cons_self
    obtain ⟨-, rfl⟩ : i = 1 ∧ ds = ["::"] := by simpa [commands] using hm
    exact absurd hds (by decide)
  exact ⟨hs, hr, rfl, ((configured_iff_no_empty_delimiter s commands hs hr).2 ha).1⟩

/-- An empty delimiter added to the only handle: the snapshot of the handle is rejected. -/
theorem snapshot_rejected_after_empty_delimiter :
    let s := ofTree .empty {} false
    let u := s.run [(0, .addDelimiters [""])]
    s.Configured ∧ ∃ h, u.handle? 0 = some h ∧ ¬ h.view.config.Valid ∧
      ofOctets Json.compact ((ofView h.view (u.treeOf h)).octets Json.compact) =
        .error (.invalid (.emptyDelimiter 1)) := by
  intro s u
  refine ⟨by decide, _, rfl, by decide, ?_⟩
  rw [ofOctets, Snapshot.octets, Json.read?_write_compact]
  rfl

end Session
end NestedData
