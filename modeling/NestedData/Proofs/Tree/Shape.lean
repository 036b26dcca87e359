import NestedData.Tree.Basic
/-!
Shapes of trees: induction on trees, and what holds of every leaf and every key of a tree. A tree is
in normal form when no branch repeats a key, no leaf holds a list or an object, and no key holds a
delimiter.
-/

namespace NestedData.Tree

@[elab_as_elim, induction_eliminator]
theorem induct {motive : Tree → Prop} (leaf : ∀ v, motive (.leaf v))
    (branch : ∀ cs, (∀ e ∈ cs, motive e.2) → motive (.branch cs)) : ∀ t, motive t
  | .leaf v => leaf v
  | .branch cs => branch cs fun e _ => induct leaf branch e.2
termination_by t => sizeOf t
decreasing_by
  rename_i he
  have := List.sizeOf_lt_of_mem he
  obtain ⟨k, t⟩ := e
  simp only [Prod.mk.sizeOf_spec] at this
  simp only [Tree.branch.sizeOf_spec]
  omega

variable {delimiters : List Char} {cs : List (String × Tree)}

theorem wellFormed_branch :
    (branch cs).WellFormed ↔ Dict.Distinct cs ∧ ∀ e ∈ cs, e.2.WellFormed := by
  have hchildren : WellFormedChildren cs ↔ ∀ e ∈ cs, e.2.WellFormed := by
    induction cs with
    | nil => simp [WellFormedChildren]
    | cons e cs ih => rw [WellFormedChildren, ih, List.forall_mem_cons]
  rw [WellFormed, hchildren]

theorem atomic_branch : (branch cs).Atomic ↔ ∀ e ∈ cs, e.2.Atomic := by
  rw [Atomic]
  induction cs with
  | nil => simp [AtomicChildren]
  | cons e cs ih => rw [AtomicChildren, ih, List.forall_mem_cons]

def Whole (delimiters : List Char) (key : String) : Prop := ∀ c ∈ delimiters, c ∉ key.toList

instance (delimiters : List Char) (key : String) : Decidable (Whole delimiters key) :=
  List.decidableBAll _ delimiters

theorem whole_nil (key : String) : Whole [] key := fun _ hc => absurd hc List.not_mem_nil

mutual
def Undelimited (delimiters : List Char) : Tree → Prop
  | .leaf _ => True
  | .branch cs => UndelimitedChildren delimiters cs

def UndelimitedChildren (delimiters : List Char) : List (String × Tree) → Prop
  | [] => True
  | (k, t) :: rest =>
    (Whole delimiters k ∧ Undelimited delimiters t) ∧ UndelimitedChildren delimiters rest
end

theorem undelimited_branch : (branch cs).Undelimited delimiters ↔
    ∀ e ∈ cs, Whole delimiters e.1 ∧ e.2.Undelimited delimiters := by
  rw [Undelimited]
  induction cs with
  | nil => simp [UndelimitedChildren]
  | cons e cs ih => rw [UndelimitedChildren, ih, List.forall_mem_cons]

/-- The trees that values are turned into. -/
structure Normal (delimiters : List Char) (t : Tree) : Prop where
  wellFormed : t.WellFormed
  atomic : t.Atomic
  undelimited : t.Undelimited delimiters

theorem normal_leaf {v : Value} : Normal delimiters (leaf v) ↔ (leaf v).Atomic := by
  refine ⟨Normal.atomic, fun h => ⟨?_, h, ?_⟩⟩
  · rw [WellFormed]
    trivial
  · rw [Undelimited]
    trivial

theorem normal_branch : Normal delimiters (branch cs) ↔
    Dict.Distinct cs ∧ ∀ e ∈ cs, Whole delimiters e.1 ∧ Normal delimiters e.2 := by
  constructor
  · rintro ⟨hw, ha, hu⟩
    rw [wellFormed_branch] at hw
    rw [atomic_branch] at ha
    rw [undelimited_branch] at hu
    exact ⟨hw.1, fun e he => ⟨(hu e he).1, hw.2 e he, ha e he, (hu e he).2⟩⟩
  · rintro ⟨hd, h⟩
    refine ⟨wellFormed_branch.2 ⟨hd, fun e he => ?_⟩, atomic_branch.2 fun e he => ?_,
      undelimited_branch.2 fun e he => ?_⟩
    · exact (h e he).2.wellFormed
    · exact (h e he).2.atomic
    · exact ⟨(h e he).1, (h e he).2.undelimited⟩

end NestedData.Tree
