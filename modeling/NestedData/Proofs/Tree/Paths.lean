import NestedData.Tree.Edit
/-!
Nodes at paths. A path is followed segment by segment, so that the node at `p ++ q` is the node at
`q` seen from the node at `p`. Two paths are apart when neither continues the other: what lies at
one of them is then no part of what lies at the other.
-/

namespace NestedData.Tree

@[simp] theorem child?_leaf (v : Value) (key : String) : (leaf v).child? key = none := rfl

@[simp] theorem child?_branch (cs : List (String × Tree)) (key : String) :
    (branch cs).child? key = Dict.get? key cs := rfl

@[simp] theorem children_leaf (v : Value) : (leaf v).children = [] := rfl

@[simp] theorem children_branch (cs : List (String × Tree)) : (branch cs).children = cs := rfl

theorem get?_children (t : Tree) (key : String) : Dict.get? key t.children = t.child? key := by
  cases t <;> rfl

@[simp] theorem find?_nil (t : Tree) : t.find? [] = some t := rfl

theorem toOption_mapError {ε ε' α : Type} (f : ε → ε') (r : Except ε α) :
    (r.mapError f).toOption = r.toOption := by
  cases r <;> rfl

theorem mapError_eq_error_iff {ε ε' α : Type} {f : ε → ε'} {r : Except ε α} {e' : ε'} :
    r.mapError f = .error e' ↔ ∃ e, r = .error e ∧ f e = e' := by
  cases r with
  | error e =>
    constructor
    · intro h
      exact ⟨e, rfl, Except.error.inj h⟩
    · rintro ⟨_, ⟨⟩, rfl⟩
      rfl
  | ok a =>
    constructor
    · intro h
      cases h
    · rintro ⟨e, h, -⟩
      cases h

theorem find?_cons (key : String) (path : List String) (t : Tree) :
    t.find? (key :: path) = (t.child? key).bind (find? path) := by
  unfold find?
  rw [walk]
  cases t.child? key with
  | none => rfl
  | some c => exact toOption_mapError _ _

theorem find?_append (p q : List String) (t : Tree) :
    t.find? (p ++ q) = (t.find? p).bind (find? q) := by
  induction p generalizing t with
  | nil => rfl
  | cons key p ih =>
    rw [List.cons_append, find?_cons, find?_cons]
    cases t.child? key with
    | none => rfl
    | some c => exact ih c

theorem find?_singleton (key : String) (t : Tree) : t.find? [key] = t.child? key := by
  rw [find?_cons]
  cases t.child? key <;> rfl

theorem find?_empty {p : List String} (h : p ≠ []) : empty.find? p = none := by
  cases p with
  | nil => exact absurd rfl h
  | cons key p => rw [find?_cons]; rfl

theorem find?_getD_empty {p : List String} (h : p ≠ []) (o : Option Tree) :
    (o.getD empty).find? p = o.bind (find? p) := by
  cases o with
  | none => exact find?_empty h
  | some t => rfl

theorem getD_find?_getD_empty (p : List String) (o : Option Tree) :
    ((o.getD empty).find? p).getD empty = (o.bind (find? p)).getD empty := by
  cases p with
  | nil => cases o <;> rfl
  | cons key p => rw [find?_getD_empty (List.cons_ne_nil key p)]

theorem find?_isSome_above {p q : List String} {t : Tree} (hpq : p <+: q)
    (hq : (t.find? q).isSome) : (t.find? p).isSome := by
  obtain ⟨r, rfl⟩ := hpq
  rw [find?_append] at hq
  cases hp : t.find? p with
  | none => simp [hp] at hq
  | some u => rfl

theorem toOption_eq_some_iff {ε α : Type} {r : Except ε α} {a : α} :
    r.toOption = some a ↔ r = .ok a := by
  cases r <;> simp [Except.toOption]

theorem walk_eq_ok_iff {p : List String} {t u : Tree} : walk p t = .ok u ↔ t.find? p = some u :=
  toOption_eq_some_iff.symm

def Apart (p q : List String) : Prop := ¬ p <+: q ∧ ¬ q <+: p

instance (p q : List String) : Decidable (Apart p q) :=
  inferInstanceAs (Decidable (_ ∧ _))

theorem not_apart_nil_left (q : List String) : ¬ Apart [] q := fun h => h.1 List.nil_prefix

theorem not_apart_nil_right (p : List String) : ¬ Apart p [] := fun h => h.2 List.nil_prefix

theorem Apart.symm {p q : List String} (h : Apart p q) : Apart q p := And.symm h

theorem Apart.ne_nil {p q : List String} (h : Apart p q) : q ≠ [] := by
  rintro rfl
  exact not_apart_nil_right p h

theorem apart_cons_iff {k l : String} {p q : List String} :
    Apart (k :: p) (l :: q) ↔ k ≠ l ∨ Apart p q := by
  unfold Apart
  rw [List.cons_prefix_cons, List.cons_prefix_cons]
  constructor
  · rintro ⟨hp, hq⟩
    by_cases hkl : k = l
    · exact Or.inr ⟨fun h => hp ⟨hkl, h⟩, fun h => hq ⟨hkl.symm, h⟩⟩
    · exact Or.inl hkl
  · rintro (hkl | ⟨hp, hq⟩)
    · exact ⟨fun h => hkl h.1, fun h => hkl h.1.symm⟩
    · exact ⟨fun h => hp h.2, fun h => hq h.2⟩

theorem apart_append_iff {a p q : List String} : Apart (a ++ p) (a ++ q) ↔ Apart p q := by
  unfold Apart
  rw [List.prefix_append_right_inj, List.prefix_append_right_inj]

end NestedData.Tree
