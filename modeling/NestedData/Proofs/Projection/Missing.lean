import NestedData.Filter.Basic
import NestedData.Proofs.Projection.Keeping
import NestedData.Proofs.Tree.Flattening
import NestedData.Regex.Dialect
/-!
Filtering with a projection. What is selected is projected record by record; a strict projection
fails just when a selected record lacks a column, and then on the first that is lacking. The name
that it gives is the dotted path of that column, unless the path starts with an empty name and goes
on: empty names at the start leave no trace in it.
-/

namespace NestedData

namespace Column

/-- Below the column, in some item where the value is a list, the field at the end of the path is
absent from what it is looked up in. -/
inductive Lacks : Column → Value → List String → Prop where
  | item {columns : List (String × Column)} {items : List Value} {v : Value} {path : List String}
      (hv : v ∈ items) (h : Lacks (.part columns) v path) :
      Lacks (.part columns) (.array items) path
  | absent {columns : List (String × Column)} {e : String × Column} {v : Value} (he : e ∈ columns)
      (hv : v.items? = none) (h : v.get? e.1 = none) : Lacks (.part columns) v [e.1]
  | inside {columns : List (String × Column)} {e : String × Column} {v w : Value}
      {path : List String} (he : e ∈ columns) (hw : v.get? e.1 = some w) (h : Lacks e.2 w path) :
      Lacks (.part columns) v (e.1 :: path)

variable {c : Column} {columns : List (String × Column)} {ms : List (String × Value)} {v : Value}
  {path : List String}

theorem mem_missingMembers_iff : path ∈ missingMembers columns ms ↔
    ∃ e ∈ columns, (Dict.get? e.1 ms = none ∧ path = [e.1]) ∨
      ∃ w, Dict.get? e.1 ms = some w ∧ ∃ rest ∈ e.2.missing w, path = e.1 :: rest := by
  induction columns with
  | nil => simp [missingMembers]
  | cons e columns ih =>
    obtain ⟨name, c⟩ := e
    rw [missingMembers, List.mem_append, ih, List.exists_mem_cons_iff]
    refine or_congr_left ?_
    cases Dict.get? name ms with
    | none => simp
    | some w => simp [eq_comm]

theorem mem_missing_iff : path ∈ c.missing v ↔ c.Lacks v path := by
  constructor
  · intro h
    induction c generalizing v path with
    | whole => cases h
    | part columns ih =>
      induction v generalizing path with
      | array items ihs =>
        rw [missing_array, List.mem_flatMap] at h
        obtain ⟨v, hv, h⟩ := h
        exact .item hv (ihs v hv h)
      | null | bool | number | string | object =>
        rw [missing_of_items? rfl, mem_missingMembers_iff] at h
        obtain ⟨e, he, ⟨hnone, rfl⟩ | ⟨w, hw, rest, hrest, rfl⟩⟩ := h
        · exact .absent he rfl (by rw [← Value.get?_members, hnone])
        · exact .inside he (by rw [← Value.get?_members, hw]) (ih e he hrest)
  · intro h
    induction h with
    | item hv _ ih =>
      rw [missing_array]
      exact List.mem_flatMap.2 ⟨_, hv, ih⟩
    | @absent columns e v he hv h =>
      rw [missing_of_items? hv, mem_missingMembers_iff]
      exact ⟨e, he, Or.inl ⟨by rw [Value.get?_members, h], rfl⟩⟩
    | @inside columns e v w path he hw _ ih =>
      have hv : v.items? = none := by
        cases v with
        | array => cases hw
        | null | bool | number | string | object => rfl
      rw [missing_of_items? hv, mem_missingMembers_iff]
      exact ⟨e, he, Or.inr ⟨w, by rw [Value.get?_members, hw], path, ih, rfl⟩⟩

theorem Lacks.ne_nil (h : c.Lacks v path) : path ≠ [] := by
  induction h with
  | item _ _ ih => exact ih
  | absent | inside => exact List.cons_ne_nil _ _

end Column

namespace Projection

/-- The record lacks the field at the end of the path, which the projection asks for. -/
def Lacks (p : Projection) (record : Value) (path : List String) : Prop :=
  (Column.part p).Lacks record path

theorem mem_missing_iff {p : Projection} {record : Value} {path : List String} :
    path ∈ p.missing record ↔ p.Lacks record path :=
  Column.mem_missing_iff

theorem foldl_below_eq (path : List String) :
    path.foldl below "" = Text.join "." (path.dropWhile String.isEmpty) :=
  Tree.joined_eq '.' path

theorem length_join_dropWhile_le (path : List String) :
    (Text.join "." (path.dropWhile String.isEmpty)).length ≤ (Text.join "." path).length := by
  induction path with
  | nil => exact Nat.le_refl _
  | cons name path ih =>
    by_cases hname : name.isEmpty
    · rw [List.dropWhile_cons_of_pos hname]
      refine ih.trans ?_
      cases path with
      | nil => exact Nat.zero_le _
      | cons next path =>
        exact (Nat.le_add_left _ _).trans_eq (Text.length_join_cons_cons '.' name next path).symm
    · rw [List.dropWhile_cons_of_neg hname]

/-- A path is named in full unless it starts with an empty name and goes on. -/
theorem foldl_below_eq_join_iff {path : List String} (hne : path ≠ []) :
    path.foldl below "" = Text.join "." path ↔ (path.head? = some "" → path = [""]) := by
  rw [foldl_below_eq]
  obtain ⟨name, path, rfl⟩ := List.exists_cons_of_ne_nil hne
  by_cases hname : name = ""
  · subst hname
    cases path with
    | nil => exact iff_of_true rfl fun _ => rfl
    | cons next path =>
      -- the delimiter after the empty name is lost, so the name given is shorter than the path
      refine iff_of_false (fun h => ?_) (by simp)
      have hle := length_join_dropWhile_le (next :: path)
      have hlen : (Text.join "." ("" :: next :: path)).length =
          1 + (Text.join "." (next :: path)).length := Text.length_join_cons_cons '.' "" next path
      have hdrop : (Text.join "." ((next :: path).dropWhile String.isEmpty)).length =
          (Text.join "." ("" :: next :: path)).length := congrArg String.length h
      omega
  · have hdrop : (name :: path).dropWhile String.isEmpty = name :: path :=
      List.dropWhile_cons_of_neg (by simpa using hname)
    exact iff_of_true (by rw [hdrop]) fun h => absurd (Option.some.inj h) hname

variable {α : Type} {base : String} {ps : List (List String)} {a b : α} {e : MissingField}

theorem unlessFaults_eq_ok_iff : unlessFaults base ps a = .ok b ↔ ps = [] ∧ b = a := by
  cases ps with
  | nil => simp [unlessFaults, eq_comm]
  | cons path ps => simp [unlessFaults]

theorem unlessFaults_eq_error_iff : unlessFaults base ps a = .error e ↔
    ∃ path, ps.head? = some path ∧ e = ⟨path.foldl below base⟩ := by
  cases ps with
  | nil => simp [unlessFaults]
  | cons path ps => simp [unlessFaults, eq_comm]

end Projection

namespace Filter

variable {f : Filter} {p : Projection} {e : MissingField} {vs : List Value}

theorem select_eq (hp : f.options.projection = some p) (records : List Value) :
    f.select records = Projection.unlessFaults ""
      (Projection.faults f.options.strict ((records.filter f.selects).flatMap p.missing))
      ((records.filter f.selects).map p.kept) := by
  rw [select, output, hp]
  exact p.applyAll_eq _ _

theorem select_lenient (hp : f.options.projection = some p) (hs : f.options.strict = false)
    (records : List Value) : f.select records = .ok ((records.filter f.selects).map p.kept) := by
  rw [select_eq hp, hs]
  rfl

theorem select_strict_eq_ok_iff (hp : f.options.projection = some p) (hs : f.options.strict = true)
    (records : List Value) : f.select records = .ok vs ↔
      (∀ r ∈ records, f.selects r = true → ∀ path, ¬ p.Lacks r path) ∧
        vs = (records.filter f.selects).map p.kept := by
  rw [select_eq hp, hs, Projection.unlessFaults_eq_ok_iff]
  refine and_congr_left fun _ => ?_
  rw [Projection.faults, if_pos rfl, List.flatMap_eq_nil_iff]
  simp only [List.mem_filter, and_imp, List.eq_nil_iff_forall_not_mem, Projection.mem_missing_iff]

theorem select_strict_eq_error_iff (hp : f.options.projection = some p)
    (hs : f.options.strict = true) (records : List Value) : f.select records = .error e ↔
      ∃ path, ((records.filter f.selects).flatMap p.missing).head? = some path ∧
        e = ⟨Text.join "." (path.dropWhile String.isEmpty)⟩ := by
  rw [select_eq hp, hs, Projection.unlessFaults_eq_error_iff]
  simp only [Projection.faults, if_true, Projection.foldl_below_eq]

theorem select_strict_fails_iff (hp : f.options.projection = some p) (hs : f.options.strict = true)
    (records : List Value) : (∃ e, f.select records = .error e) ↔
      ∃ r ∈ records, f.selects r = true ∧ ∃ path, p.Lacks r path := by
  cases h : f.select records with
  | ok vs =>
    have hnone := ((select_strict_eq_ok_iff hp hs records).1 h).1
    refine iff_of_false (by rintro ⟨e, h⟩; cases h) ?_
    rintro ⟨r, hr, hsel, path, hpath⟩
    exact hnone r hr hsel path hpath
  | error e =>
    obtain ⟨path, hhead, -⟩ := (select_strict_eq_error_iff hp hs records).1 h
    obtain ⟨r, hr, hpath⟩ := List.mem_flatMap.1 (List.mem_of_head? hhead)
    rw [List.mem_filter] at hr
    exact iff_of_true ⟨e, rfl⟩ ⟨r, hr.1, hr.2, path, Projection.mem_missing_iff.1 hpath⟩

/-- A lenient projection never fails. A strict one gives the same of the selected records unless one
of them lacks a column; then the first that is lacking is named, by its dotted path unless that path
starts with an empty name and goes on. -/
theorem select_projected (hp : f.options.projection = some p) (records : List Value) :
    (∀ r, p.apply false r = .ok (p.kept r)) ∧
    (∀ r path, path ∈ p.missing r ↔ p.Lacks r path) ∧
    (f.options.strict = false →
      f.select records = .ok ((records.filter f.selects).map p.kept)) ∧
    (f.options.strict = true →
      ((∃ e, f.select records = .error e) ↔
        ∃ r ∈ records, f.selects r = true ∧ ∃ path, p.Lacks r path) ∧
      (∀ vs, f.select records = .ok vs → vs = (records.filter f.selects).map p.kept) ∧
      ∀ e, f.select records = .error e → ∃ path,
        ((records.filter f.selects).flatMap p.missing).head? = some path ∧
        e.field = Text.join "." (path.dropWhile String.isEmpty) ∧
        (e.field = Text.join "." path ↔ (path.head? = some "" → path = [""]))) := by
  refine ⟨p.apply_lenient, fun _ _ => Projection.mem_missing_iff, fun hs => select_lenient hp hs _,
    fun hs => ⟨select_strict_fails_iff hp hs _, fun vs h => ?_, fun e h => ?_⟩⟩
  · exact ((select_strict_eq_ok_iff hp hs records).1 h).2
  · obtain ⟨path, hhead, rfl⟩ := (select_strict_eq_error_iff hp hs records).1 h
    obtain ⟨r, -, hpath⟩ := List.mem_flatMap.1 (List.mem_of_head? hhead)
    have hne : path ≠ [] := (Projection.mem_missing_iff.1 hpath).ne_nil
    exact ⟨path, hhead, rfl, by rw [← Projection.foldl_below_eq,
      Projection.foldl_below_eq_join_iff hne]⟩

/-- The first record is not selected; the second one holds a list, and an item of it lacks a
column that another item has. -/
theorem select_projected_item :
    let spec : Value := .object [("keep", .bool true)]
    let options : Value := .object [("$project", .object [("keep", .null),
      ("a", .array [.string "x"])]), ("$strict", .bool true)]
    let item : Value := .object [("x", .null)]
    let records : List Value := [.object [("keep", .bool false)],
      .object [("keep", .bool true), ("a", .array [item, .array [.object []]])]]
    ∃ f p, ofSpecs Regex.dialect spec options = .ok f ∧ f.options.projection = some p ∧
      f.options.strict = true ∧ f.select records = .error ⟨"a.x"⟩ ∧
      (∃ r ∈ records, f.selects r = true ∧ ∃ path, p.Lacks r path) ∧
      ∃ path, ((records.filter f.selects).flatMap p.missing).head? = some path ∧
        "a.x" = Text.join "." (path.dropWhile String.isEmpty) := by
  intro spec options item records
  obtain ⟨f, p, hf, hp, hs, hselect⟩ : ∃ f p, ofSpecs Regex.dialect spec options = .ok f ∧
      f.options.projection = some p ∧ f.options.strict = true ∧
      f.select records = .error ⟨"a.x"⟩ := ⟨_, _, by cbv, rfl, rfl, rfl⟩
  obtain ⟨hfails, -, hnamed⟩ := (select_projected hp records).2.2.2 hs
  obtain ⟨path, hhead, hfield, -⟩ := hnamed _ hselect
  exact ⟨f, p, hf, hp, hs, hselect, hfails.1 ⟨_, hselect⟩, path, hhead, hfield⟩

/-- Below an empty name a column is named alone, even where the record has a column of that name. -/
theorem select_names_held_column :
    let options : Value := .object [("$project", .object [("", .object [("b", .null)])]),
      ("$strict", .bool true)]
    let record : Value := .object [("", .object []), ("b", .bool true)]
    ∃ f p, ofSpecs Regex.dialect (.object []) options = .ok f ∧ f.options.projection = some p ∧
      f.options.strict = true ∧ f.selects record = true ∧
      (p.missing record).head? = some ["", "b"] ∧
      f.select [record] = .error ⟨"b"⟩ ∧ Text.join "." ["", "b"] ≠ "b" := by
  intro options record
  exact ⟨_, _, by cbv, rfl, rfl, rfl, rfl, rfl, by decide⟩

end Filter

end NestedData
