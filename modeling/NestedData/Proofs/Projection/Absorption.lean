import NestedData.Proofs.Projection.Keeping
import NestedData.Proofs.Filter.Parts
/-!
Projections after one another. A projection that keeps no more than another one gives the same
before and after it. What is kept of two records is the same just when the records agree on the
columns, item by item where they are lists.
-/

namespace NestedData

theorem map_eq_map_iff_zip {α β : Type} {f : α → β} {xs ys : List α} :
    xs.map f = ys.map f ↔ xs.length = ys.length ∧ ∀ e ∈ xs.zip ys, f e.1 = f e.2 := by
  induction xs generalizing ys with
  | nil => cases ys <;> simp
  | cons x xs ih =>
    cases ys with
    | nil => simp
    | cons y ys =>
      rw [List.map_cons, List.map_cons, List.cons.injEq, ih, List.zip_cons_cons,
        List.forall_mem_cons, List.length_cons, List.length_cons, Nat.add_right_cancel_iff]
      exact and_left_comm

namespace Column

inductive WellFormed : Column → Prop where
  | whole : WellFormed .whole
  | part {columns : List (String × Column)} (distinct : Dict.Distinct columns)
      (nested : ∀ e ∈ columns, WellFormed e.2) : WellFormed (.part columns)

/-- The first column keeps nothing that the second does not keep: its fields are among those of the
second, and what the second projects it projects as well, to no more. -/
inductive Within : Column → Column → Prop where
  | whole (c : Column) : Within c .whole
  | part {qs ps : List (String × Column)} (fields : ∀ e ∈ qs, ∃ d, Dict.get? e.1 ps = some d)
      (nested : ∀ e ∈ qs, ∀ d, Dict.get? e.1 ps = some d → Within e.2 d) :
      Within (.part qs) (.part ps)

/-- The values agree as far as the column looks: lists item by item, and other values on the fields
of the column, which both have or both lack. -/
inductive AgreeOn : Column → Value → Value → Prop where
  | whole (v : Value) : AgreeOn .whole v v
  | items {columns : List (String × Column)} {vs ws : List Value} (length : vs.length = ws.length)
      (h : ∀ e ∈ vs.zip ws, AgreeOn (.part columns) e.1 e.2) :
      AgreeOn (.part columns) (.array vs) (.array ws)
  | fields {columns : List (String × Column)} {v w : Value} (hv : v.items? = none)
      (hw : w.items? = none)
      (both : ∀ e ∈ columns, (v.get? e.1).isSome = (w.get? e.1).isSome)
      (h : ∀ e ∈ columns, ∀ x y, v.get? e.1 = some x → w.get? e.1 = some y → AgreeOn e.2 x y) :
      AgreeOn (.part columns) v w

variable {c d : Column} {columns ps qs : List (String × Column)} {ms ns : List (String × Value)}
  {v w : Value}

theorem WellFormed.insert (h : (Column.part columns).WellFormed) (name : String)
    (hc : c.WellFormed) : (Column.part (Dict.insert name c columns)).WellFormed := by
  cases h with
  | part distinct nested =>
    refine .part (distinct.insert name c) fun e he => ?_
    rcases Dict.mem_insert he with rfl | he
    · exact hc
    · exact nested e he

theorem WellFormed.within (h : c.WellFormed) : c.Within c := by
  induction h with
  | whole => exact .whole .whole
  | @part columns distinct _ ih =>
    have hget : ∀ e ∈ columns, Dict.get? e.1 columns = some e.2 :=
      fun e he => Dict.get?_of_mem distinct he
    refine .part (fun e he => ⟨e.2, hget e he⟩) fun e he d hd => ?_
    cases (hget e he).symm.trans hd
    exact ih e he

/-- What is kept below a name is kept by the first column of that name. -/
theorem get?_keptMembers (name : String) (columns : List (String × Column))
    (ms : List (String × Value)) : Dict.get? name (keptMembers columns ms) =
      (Dict.get? name columns).bind fun c => (Dict.get? name ms).map c.kept := by
  induction columns with
  | nil => rfl
  | cons e columns ih =>
    obtain ⟨n, c⟩ := e
    rw [keptMembers, Dict.get?]
    by_cases hn : n = name
    · subst hn
      rw [if_pos rfl, Option.bind_some]
      cases hms : Dict.get? n ms with
      | none =>
        dsimp only
        rw [ih, hms]
        cases Dict.get? n columns <;> rfl
      | some v => exact if_pos rfl
    · rw [if_neg hn, ← ih]
      cases Dict.get? n ms with
      | none => rfl
      | some v => exact if_neg hn

theorem keptMembers_absorb (h : ∀ e ∈ qs, ∃ d, Dict.get? e.1 ps = some d ∧
      ∀ v, e.2.kept (d.kept v) = e.2.kept v) (ms : List (String × Value)) :
    keptMembers qs (keptMembers ps ms) = keptMembers qs ms := by
  induction qs with
  | nil => rfl
  | cons e qs ih =>
    obtain ⟨name, c⟩ := e
    rw [List.forall_mem_cons] at h
    obtain ⟨⟨d, hd, hc⟩, h⟩ := h
    rw [keptMembers, keptMembers, get?_keptMembers, hd, Option.bind_some, ih h]
    cases Dict.get? name ms with
    | none => rfl
    | some v =>
      dsimp only [Option.map_some]
      rw [hc]

theorem Within.kept_kept (h : c.Within d) (v : Value) : c.kept (d.kept v) = c.kept v := by
  induction h generalizing v with
  | whole c => rw [kept.eq_1]
  | part fields _ ih =>
    induction v with
    | array items ihs =>
      rw [kept_array, kept_array, kept_array, List.map_map]
      exact congrArg Value.array (List.map_congr_left ihs)
    | null | bool | number | string | object =>
      rw [kept_of_items? rfl, kept_of_items? rfl, kept_of_items? rfl]
      refine congrArg Value.object (keptMembers_absorb (fun e he => ?_) _)
      obtain ⟨d, hd⟩ := fields e he
      exact ⟨d, hd, ih e he d hd⟩

theorem keptMembers_congr
    (h : ∀ e ∈ columns, (Dict.get? e.1 ms).map e.2.kept = (Dict.get? e.1 ns).map e.2.kept) :
    keptMembers columns ms = keptMembers columns ns := by
  induction columns with
  | nil => rfl
  | cons e columns ih =>
    obtain ⟨name, c⟩ := e
    rw [List.forall_mem_cons] at h
    obtain ⟨hc, h⟩ := h
    rw [keptMembers, keptMembers, ih h]
    cases hms : Dict.get? name ms with
    | none =>
      rw [hms, Option.map_none, eq_comm, Option.map_eq_none_iff] at hc
      rw [hc]
    | some v =>
      rw [hms, Option.map_some, eq_comm, Option.map_eq_some_iff] at hc
      obtain ⟨w, hw, hvw⟩ := hc
      rw [hw]
      dsimp only
      rw [hvw]

theorem kept_eq_of_agreeOn (h : c.AgreeOn v w) : c.kept v = c.kept w := by
  induction h with
  | whole v => rfl
  | items length _ ih => rw [kept_array, kept_array, map_eq_map_iff_zip.2 ⟨length, ih⟩]
  | @fields columns v w hv hw both _ ih =>
    rw [kept_of_items? hv, kept_of_items? hw]
    refine congrArg Value.object (keptMembers_congr fun e he => ?_)
    rw [Value.get?_members, Value.get?_members]
    have hboth := both e he
    cases hx : v.get? e.1 with
    | none =>
      rw [hx, Option.isSome_none, eq_comm, Option.isSome_eq_false_iff, Option.isNone_iff_eq_none]
        at hboth
      rw [hboth]
    | some x =>
      rw [hx, Option.isSome_some, eq_comm, Option.isSome_iff_exists] at hboth
      obtain ⟨y, hy⟩ := hboth
      rw [hy, Option.map_some, Option.map_some, ih e he x y hx hy]

theorem agreeOn_fields (hd : Dict.Distinct columns) (hv : v.items? = none) (hw : w.items? = none)
    (ih : ∀ e ∈ columns, ∀ {x y : Value}, e.2.kept x = e.2.kept y → e.2.AgreeOn x y)
    (h : (part columns).kept v = (part columns).kept w) : (part columns).AgreeOn v w := by
  rw [kept_of_items? hv, kept_of_items? hw] at h
  have hfield : ∀ e ∈ columns, (v.get? e.1).map e.2.kept = (w.get? e.1).map e.2.kept := by
    intro e he
    have hget := congrArg (Dict.get? e.1) (Value.object.inj h)
    rwa [get?_keptMembers, get?_keptMembers, Dict.get?_of_mem hd he, Value.get?_members,
      Value.get?_members] at hget
  refine .fields hv hw (fun e he => ?_) fun e he x y hx hy => ih e he ?_
  · simpa only [Option.isSome_map] using congrArg Option.isSome (hfield e he)
  · have hxy := hfield e he
    rw [hx, hy] at hxy
    exact Option.some.inj hxy

theorem agreeOn_of_kept_eq (hc : c.WellFormed) (h : c.kept v = c.kept w) : c.AgreeOn v w := by
  induction hc generalizing v w with
  | whole =>
    obtain rfl : v = w := h
    exact .whole v
  | part distinct _ ih =>
    induction v generalizing w with
    | array vs ihs =>
      cases w with
      | array ws =>
        rw [kept_array, kept_array, Value.array.injEq, map_eq_map_iff_zip] at h
        exact .items h.1 fun e he => ihs e.1 (List.of_mem_zip he).1 (h.2 e he)
      | null | bool | number | string | object =>
        rw [kept_array, kept_of_items? rfl] at h
        cases h
    | null | bool | number | string | object =>
      cases w with
      | array ws =>
        rw [kept_array, kept_of_items? rfl] at h
        cases h
      | null | bool | number | string | object => exact agreeOn_fields distinct rfl rfl ih h

theorem wellFormed_ofNames (names : List String) :
    (part (Projection.ofNames names)).WellFormed := by
  have hfold (p : Projection) (hp : (part p).WellFormed) :
      (part (names.foldl (fun p n => Dict.insert n .whole p) p)).WellFormed := by
    induction names generalizing p with
    | nil => exact hp
    | cons n names ih => exact ih _ (hp.insert n .whole)
  exact hfold [] (.part List.nodup_nil nofun)

theorem wellFormed_columnsFrom {p q : Projection}
    (hms : ∀ e ∈ ms, ∀ c, Projection.columnOf e.2 = .ok (some c) → c.WellFormed)
    (hp : (part p).WellFormed) (h : Projection.columnsFrom p ms = .ok q) :
    (part q).WellFormed := by
  induction ms generalizing p with
  | nil =>
    cases h
    exact hp
  | cons e ms ih =>
    obtain ⟨name, spec⟩ := e
    rw [List.forall_mem_cons] at hms
    obtain ⟨column, hcolumn, h⟩ := bind_eq_ok_iff.1 h
    cases column with
    | none => exact ih hms.2 hp h
    | some c => exact ih hms.2 (hp.insert name (hms.1 c hcolumn)) h

theorem wellFormed_of_read (v : Value) :
    (∀ p, Projection.ofSpec v = .ok p → (part p).WellFormed) ∧
    ∀ c, Projection.columnOf v = .ok (some c) → c.WellFormed := by
  induction v with
  | null =>
    refine ⟨fun p h => ?_, fun c h => ?_⟩
    · cases h
      exact .part List.nodup_nil nofun
    · cases h
      exact .whole
  | bool b =>
    refine ⟨fun p h => ?_, fun c h => ?_⟩
    · cases h
    · cases b with
      | true =>
        cases h
        exact .whole
      | false => cases h
  | number n =>
    refine ⟨fun p h => ?_, fun c h => ?_⟩
    · cases h
    · cases h
  | string name =>
    refine ⟨fun p h => ?_, fun c h => ?_⟩
    · cases h
      exact wellFormed_ofNames [name]
    · cases h
  | array names =>
    refine ⟨fun p h => ?_, fun c h => ?_⟩
    · obtain ⟨ns, -, rfl⟩ := map_eq_ok_iff.1 h
      exact wellFormed_ofNames ns
    · obtain ⟨ns, -, hc⟩ := map_eq_ok_iff.1 h
      rw [Option.some.inj hc]
      exact wellFormed_ofNames ns
  | object ms ih =>
    have hcolumns : ∀ p, Projection.columnsFrom [] ms = .ok p → (part p).WellFormed := fun p =>
      wellFormed_columnsFrom (fun e he => (ih e he).2) (.part List.nodup_nil nofun)
    refine ⟨hcolumns, fun c h => ?_⟩
    obtain ⟨p, hp, hc⟩ := map_eq_ok_iff.1 h
    rw [Option.some.inj hc]
    exact hcolumns p hp

end Column

namespace Projection

def WellFormed (p : Projection) : Prop := (Column.part p).WellFormed

def Within (q p : Projection) : Prop := (Column.part q).Within (.part p)

/-- The records agree on the columns of the projection, item by item where they are lists. -/
def AgreeOn (p : Projection) (r s : Value) : Prop := (Column.part p).AgreeOn r s

variable {p : Projection}

theorem wellFormed_ofSpec {spec : Value} (h : ofSpec spec = .ok p) : p.WellFormed :=
  (Column.wellFormed_of_read spec).1 p h

theorem WellFormed.withPart {q : Projection} (hp : p.WellFormed) (name : String)
    (hq : q.WellFormed) : (p.withPart name q).WellFormed :=
  Column.WellFormed.insert hp name hq

/-- A projection gives the same after one that it is within. One that repeats no name, as none that
is read or built does, changes nothing the second time, and gives the same for two records just when
they agree on its columns. -/
theorem apply_absorbs (p : Projection) :
    (∀ q : Projection, q.Within p → ∀ r, ∃ v w,
      p.apply false r = .ok v ∧ q.apply false v = .ok w ∧ q.apply false r = .ok w) ∧
    (p.WellFormed → (∀ r, ∃ v, p.apply false r = .ok v ∧ p.apply false v = .ok v) ∧
      ∀ r s, p.apply false r = p.apply false s ↔ p.AgreeOn r s) ∧
    (∀ spec, ofSpec spec = .ok p → p.WellFormed) ∧ (∀ names, (ofNames names).WellFormed) ∧
    ∀ q name, p.WellFormed → q.WellFormed → (p.withPart name q).WellFormed := by
  have habsorb {q : Projection} (h : q.Within p) (r : Value) : q.kept (p.kept r) = q.kept r :=
    h.kept_kept r
  simp only [apply_lenient, Except.ok.injEq]
  refine ⟨fun q hq r => ⟨p.kept r, q.kept r, rfl, habsorb hq r, rfl⟩, fun hp => ⟨fun r => ?_, ?_⟩,
    fun spec => wellFormed_ofSpec, Column.wellFormed_ofNames, fun q name hp hq =>
    hp.withPart name hq⟩
  · exact ⟨p.kept r, rfl, habsorb (Column.WellFormed.within hp) r⟩
  · intro r s
    exact ⟨Column.agreeOn_of_kept_eq hp, Column.kept_eq_of_agreeOn⟩

/-- A projection that nests another one where the first keeps all, and fewer columns where both
nest; the record holds lists, one inside the other, and items without the columns. -/
theorem apply_absorbs_nested :
    let p : Projection :=
      [("a", .part [("x", .whole), ("y", .part [("z", .whole)])]), ("b", .whole)]
    let q : Projection := [("b", .part [("c", .whole)]), ("a", .part [("x", .whole)])]
    let r : Value := .object [("a", .array [.object [("x", .null), ("w", .null)],
      .array [.object [("y", .null)], .null]]), ("b", .object [("d", .null), ("c", .null)])]
    q.Within p ∧ p.WellFormed ∧
      (∃ v w, p.apply false r = .ok v ∧ q.apply false v = .ok w ∧ q.apply false r = .ok w) ∧
      ∃ v, p.apply false r = .ok v ∧ p.apply false v = .ok v := by
  intro p q r
  have hspec : ofSpec (.object [("a", .object [("x", .null), ("y", .array [.string "z"])]),
      ("b", .bool true)]) = .ok p := rfl
  have ha : (Column.part [("x", .whole)]).Within
      (.part [("x", .whole), ("y", .part [("z", .whole)])]) :=
    .part (by simp [Dict.get?]) (by simp [Dict.get?, Column.Within.whole])
  have hq : q.Within p :=
    .part (by simp [q, p, Dict.get?]) (by simp [q, p, Dict.get?, Column.Within.whole, ha])
  obtain ⟨habsorb, hagree, hread, -⟩ := apply_absorbs p
  exact ⟨hq, hread _ hspec, habsorb q hq r, (hagree (hread _ hspec)).1 r⟩

end Projection
end NestedData
