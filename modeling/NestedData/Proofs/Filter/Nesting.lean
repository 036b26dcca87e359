import NestedData.Proofs.Filter.Conjunction
import NestedData.Proofs.Tree.Following
/-!
Dotted keys as filters and as containers read them. A filter document is expanded into nested
objects, and a container puts the members of an object into a tree. Entry by entry the two do the
same, so that the expanded document has the tree of the container, its children in their order.
-/

namespace NestedData.Filter

open NestedData.Tree (ofValue)

variable {d es : Document} {k key : String} {v : Value} {parts : List String}

def Nested (v : Value) : Prop :=
  v.Everywhere fun u => u.items? = none ∧ Dict.Distinct u.members

theorem nested_object : Nested (.object d) ↔ Dict.Distinct d ∧ ∀ e ∈ d, Nested e.2 := by
  refine Value.Everywhere.object_iff.trans ?_
  exact and_congr_left fun _ => and_iff_right rfl

theorem nested_nil : Nested (.object []) :=
  nested_object.2 ⟨List.nodup_nil, fun _ he => absurd he List.not_mem_nil⟩

theorem Nested.wellFormed (h : Nested v) : v.WellFormed :=
  Value.wellFormed_iff_everywhere.2 (h.mono fun _ hu => hu.2)

theorem Nested.within (h : Nested (.object d)) (k : String) : Nested (.object (within k d)) := by
  unfold Filter.within
  cases hg : Dict.get? k d with
  | none => exact nested_nil
  | some w =>
    have hw : Nested w := (nested_object.1 h).2 _ (Dict.mem_of_get? hg)
    cases w with
    | object inner => exact hw
    | null | bool | number | string | array => exact nested_nil

theorem Nested.insert (h : Nested (.object d)) (hv : Nested v) (k : String) :
    Nested (.object (Dict.insert k v d)) := by
  rw [nested_object] at h ⊢
  refine ⟨h.1.insert k v, ?_⟩
  intro e he
  rcases Dict.mem_insert he with rfl | he
  · exact hv
  · exact h.2 e he

theorem Nested.placeAt (h : Nested (.object d)) (hv : Nested v) :
    Nested (.object (placeAt parts v d)) := by
  induction parts generalizing d with
  | nil => exact h
  | cons k rest ih =>
    cases rest with
    | nil => exact h.insert hv k
    | cons l rest =>
      rw [placeAt_cons_cons]
      exact h.insert (ih (h.within k)) k

theorem ofValue_insert (h : Nested (.object d)) (k : String) (v : Value) :
    ofValue [] (.object (Dict.insert k v d)) =
      .branch (Dict.insert k (ofValue [] v) (ofValue [] (.object d)).children) := by
  have hd := (nested_object.1 h).1
  rw [Tree.ofValue_nil_of_distinct hd, Tree.ofValue_nil_of_distinct (hd.insert k v)]
  exact congrArg Tree.branch (Dict.insert_map _ k v d).symm

theorem put_within (h : Nested (.object d)) (k l : String) (rest : List String) (node : Tree) :
    (ofValue [] (.object (within k d))).put (l :: rest) node =
      (((ofValue [] (.object d)).child? k).getD .empty).put (l :: rest) node := by
  rw [Tree.child?_ofValue_object (nested_object.1 h).1, within]
  cases hg : Dict.get? k d with
  | none => rfl
  | some w =>
    cases (nested_object.1 h).2 _ (Dict.mem_of_get? hg) with
    | scalar items members =>
      have hleaf : ofValue [] w = .leaf w :=
        Tree.ofValue_of_atomic (Tree.atomic_leaf items members) []
      rw [Option.map_some, Option.getD_some, Option.bind_some, members, hleaf]
      rfl
    | array here => cases here.1
    | object => rfl

/-- Placing a value in a document writes its tree into the tree of the document. -/
theorem ofValue_placeAt (h : Nested (.object d)) (hne : parts ≠ []) (v : Value) :
    ofValue [] (.object (placeAt parts v d)) =
      (ofValue [] (.object d)).put parts (ofValue [] v) := by
  induction parts generalizing d with
  | nil => exact absurd rfl hne
  | cons k rest ih =>
    cases rest with
    | nil => exact ofValue_insert h k v
    | cons l rest =>
      rw [placeAt_cons_cons, ofValue_insert h, ih (h.within k) (List.cons_ne_nil l rest),
        put_within h, Tree.put_cons _ k]

/-- The segments of the key are not empty and do not start like an operator. -/
def Segmented (key : String) : Prop := Plain key ∧ [] ∉ Text.cutAt ['.'] key.toList

instance (key : String) : Decidable (Segmented key) := inferInstanceAs (Decidable (_ ∧ _))

theorem Segmented.keyPath_eq (h : Segmented key) :
    keyPath key = (Text.cutAt ['.'] key.toList).map String.ofList := by
  have hparts : keyParts key = (Text.cutAt ['.'] key.toList).map String.ofList := by
    have hall : ∀ p ∈ Text.cutAt ['.'] key.toList, decide (p ≠ []) = true := by
      intro p hp
      apply decide_eq_true
      rintro rfl
      exact h.2 hp
    rw [keyParts, List.filter_eq_self.2 hall]
  rw [keyPath]
  by_cases hs : Single key
  · rw [if_pos hs]
    obtain ⟨piece, pieces, hcut⟩ :=
      List.exists_cons_of_ne_nil (Text.pieces_ne_nil ['.'] 0 key.toList)
    have hpieces : pieces = [] := by
      rw [Single, hparts, Text.cutAt, hcut, List.length_map, List.length_cons] at hs
      exact List.eq_nil_of_length_eq_zero (by omega)
    -- The key is put together from its one piece.
    have hwhole := Text.intercalate_cutAt (List.cons_ne_nil '.' []) key.toList
    rw [Text.cutAt, hcut, hpieces, List.intercalate_singleton] at hwhole
    rw [Text.cutAt, hcut, hpieces, hwhole, List.map_singleton, String.ofList_toList]
  · rw [if_neg hs, hparts]

theorem Segmented.keySegments_eq (h : Segmented key) :
    Tree.keySegments ["."] key = keyPath key := by
  have hkey : key ≠ "" := by
    rintro rfl
    exact h.2 (by decide)
  have hcut : Fragment.cut ["."] key = _ := Tree.cut_cons '.' [] key
  rw [Tree.keySegments_of_ne_empty hkey, hcut, h.keyPath_eq]
  simp

/-- No list, and no key with an empty segment or one that starts like an operator. -/
def Nestable (v : Value) : Prop :=
  v.Everywhere fun u => u.items? = none ∧ ∀ e ∈ u.members, Segmented e.1

instance : DecidablePred Nestable := fun v => inferInstanceAs (Decidable (v.Everywhere _))

theorem nestable_object :
    Nestable (.object d) ↔ (∀ e ∈ d, Segmented e.1) ∧ ∀ e ∈ d, Nestable e.2 := by
  refine Value.Everywhere.object_iff.trans ?_
  exact and_congr_left fun _ => and_iff_right rfl

theorem hasOperator_of_segmented (h : ∀ e ∈ d, Segmented e.1) : hasOperator d = false :=
  List.any_eq_false.2 fun e he => Bool.eq_false_iff.1 (h e he).1.key_not_operator

theorem ofValue_expandInto (hd : Nested (.object d)) (hes : ∀ e ∈ es, Segmented e.1 ∧
      Nested (expandValue e.2) ∧ ofValue [] (expandValue e.2) = ofValue ["."] e.2) :
    Nested (.object (expandInto d es)) ∧ ofValue [] (.object (expandInto d es)) =
      Tree.putMembers ["."] es (ofValue [] (.object d)) := by
  induction es generalizing d with
  | nil =>
    rw [expandInto, Tree.putMembers]
    exact ⟨hd, rfl⟩
  | cons e es ih =>
    obtain ⟨k, v⟩ := e
    rw [List.forall_mem_cons] at hes
    obtain ⟨⟨hk, hnested, hsame⟩, hes⟩ := hes
    have hplaced := ofValue_placeAt hd (keyPath_ne_nil k) (expandValue v)
    rw [hsame] at hplaced
    rw [expandInto, Tree.putMembers, place_eq_placeAt, hk.keySegments_eq, ← hplaced]
    exact ih (hd.placeAt hnested) hes

theorem expandValue_object (h : hasOperator d = false) :
    expandValue (.object d) = .object (expand d) := by
  rw [expandValue, if_neg (Bool.eq_false_iff.1 h), expand]

theorem ofValue_expandValue (h : Nestable v) :
    Nested (expandValue v) ∧ ofValue [] (expandValue v) = ofValue ["."] v := by
  induction h with
  | @scalar v items members =>
    have hatomic := Tree.atomic_leaf items members
    have hsame : expandValue v = v := (Expanded.literal members).expandValue_eq
    rw [hsame, Tree.ofValue_of_atomic hatomic, Tree.ofValue_of_atomic hatomic]
    refine ⟨.scalar items members ⟨items, ?_⟩, rfl⟩
    rw [Value.members, members]
    exact List.nodup_nil
  | array here => cases here.1
  | @object ms here _ ih =>
    have hplain : hasOperator ms = false := hasOperator_of_segmented here.2
    have htree : ofValue ["."] (.object ms) = Tree.putMembers ["."] ms .empty := by rw [ofValue]
    rw [expandValue_object hplain, htree]
    exact ofValue_expandInto nested_nil fun e he => ⟨here.2 e he, ih e he⟩

theorem ofValue_eq_leaf_iff {literal : Value} (h : Nested v) (hliteral : literal.isObject = false) :
    ofValue [] v = .leaf literal ↔ v = literal := by
  cases h with
  | scalar items members =>
    rw [Tree.ofValue_of_atomic (Tree.atomic_leaf items members), Tree.leaf.injEq]
  | array here => cases here.1
  | object =>
    rw [Tree.ofValue_nil_object]
    constructor
    · intro heq
      cases heq
    · rintro rfl
      cases hliteral

/-- Without lists, empty segments and operators, an expanded document has the tree that a container
has for the document, its children in their order, and each literal stands at the same path. -/
theorem expand_agrees_with_container (h : Nestable (.object d)) :
    ofValue [] (.object (expand d)) = ofValue ["."] (.object d) ∧
    ∀ path literal, literal.isObject = false →
      ((Value.object (expand d)).follow? path = some literal ↔
        (ofValue ["."] (.object d)).find? path = some (.leaf literal)) := by
  obtain ⟨hnested, htree⟩ := ofValue_expandValue h
  have hplain : hasOperator d = false := hasOperator_of_segmented (nestable_object.1 h).1
  rw [expandValue_object hplain] at hnested htree
  refine ⟨htree, ?_⟩
  intro path literal hliteral
  have hlists : (Value.object (expand d)).Everywhere fun u => u.items? = none :=
    hnested.mono fun _ hu => hu.1
  rw [← htree, Tree.find?_ofValue hnested.wellFormed hlists.not_misindexed]
  cases hv : (Value.object (expand d)).follow? path with
  | none => simp
  | some v =>
    rw [Option.map_some, Option.some.injEq, Option.some.injEq,
      ofValue_eq_leaf_iff (hnested.of_follow? hv) hliteral]

/-- Keys that merge into an earlier one, replace a literal on their way and overwrite an object. -/
theorem expand_agrees_with_container_overlapping :
    let inner : Document := [("x.y", .bool true), ("x", .object [("z", .null)]), ("x.w.v", .null)]
    let d : Document :=
      [("a.b", .null), ("c", .object inner), ("a.b.d", .null), ("c.x.y", .bool false)]
    Nestable (.object d) ∧
      ofValue [] (.object (expand d)) = ofValue ["."] (.object d) ∧
      (ofValue ["."] (.object d)).find? ["c", "x", "y"] = some (.leaf (.bool false)) := by
  intro inner d
  have hd : Nestable (.object d) := by decide
  obtain ⟨htree, hplace⟩ := expand_agrees_with_container hd
  exact ⟨hd, htree, (hplace ["c", "x", "y"] (.bool false) rfl).1 (by cbv)⟩

end NestedData.Filter
