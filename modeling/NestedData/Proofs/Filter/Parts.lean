import NestedData.Filter.Judgement
import Mathlib.Data.List.Forall2
/-!
Conditions through their parts: induction on conditions, and the judgement of a condition by those
of its parts.
-/

namespace NestedData

theorem map_eq_ok_iff {ε α β : Type} {f : α → β} {x : Except ε α} {b : β} :
    x.map f = .ok b ↔ ∃ a, x = .ok a ∧ b = f a := by
  cases x with
  | error e => simp [Except.map]
  | ok a => simp [Except.map, eq_comm]

theorem bind_eq_ok_iff {ε α β : Type} {f : α → Except ε β} {x : Except ε α} {b : β} :
    x.bind f = .ok b ↔ ∃ a, x = .ok a ∧ f a = .ok b := by
  cases x with
  | error e => simp [Except.bind]
  | ok a => simp [Except.bind]

theorem mapM_eq_ok_iff {ε α β : Type} {f : α → Except ε β} {xs : List α} {ys : List β} :
    xs.mapM f = .ok ys ↔ List.Forall₂ (fun x y => f x = .ok y) xs ys := by
  induction xs generalizing ys with
  | nil =>
    rw [List.mapM_nil, List.forall₂_nil_left_iff]
    exact ⟨fun h => (Except.ok.inj h).symm, fun h => congrArg Except.ok h.symm⟩
  | cons x xs ih =>
    rw [List.mapM_cons, List.forall₂_cons_left_iff]
    constructor
    · intro h
      obtain ⟨y, hy, h⟩ := bind_eq_ok_iff.1 h
      obtain ⟨zs, hzs, h⟩ := bind_eq_ok_iff.1 h
      exact ⟨y, zs, hy, ih.1 hzs, (Except.ok.inj h).symm⟩
    · rintro ⟨y, zs, hy, hzs, rfl⟩
      rw [hy, ih.2 hzs]
      rfl

theorem exists_of_mem_mapM {ε α β : Type} {f : α → Except ε β} {xs : List α} {ys : List β} {y : β}
    (h : xs.mapM f = .ok ys) (hy : y ∈ ys) : ∃ x ∈ xs, f x = .ok y := by
  induction mapM_eq_ok_iff.1 h with
  | nil => cases hy
  | @cons x z xs zs hx hrest ih =>
    rcases List.mem_cons.1 hy with rfl | hy
    · exact ⟨x, List.mem_cons_self, hx⟩
    · obtain ⟨x', hx', hfx'⟩ := ih (mapM_eq_ok_iff.2 hrest) hy
      exact ⟨x', List.mem_cons_of_mem x hx', hfx'⟩

theorem Judgement.or_eq_not_and_not (j k : Judgement) : j.or k = (j.not.and k.not).not := by
  funext r
  simp only [Judgement.or, Judgement.and, Judgement.not]
  cases j r with
  | none => rfl
  | some v =>
    cases v with
    | true => rfl
    | false => cases k r <;> simp

namespace Condition

def isLeaf : Condition → Bool
  | .compare .. | .between .. | .oneOf .. | .text .. => true
  | .all _ | .any _ | .not _ | .group .. => false

@[elab_as_elim, induction_eliminator]
theorem induct {motive : Condition → Prop}
    (all : ∀ parts, (∀ c ∈ parts, motive c) → motive (.all parts))
    (any : ∀ parts, (∀ c ∈ parts, motive c) → motive (.any parts))
    (not : ∀ c, motive c → motive (.not c))
    (group : ∀ f c, motive c → motive (.group f c))
    (leaf : ∀ c, c.isLeaf = true → motive c) : ∀ c, motive c
  | .all parts => all parts fun c _ => induct all any not group leaf c
  | .any parts => any parts fun c _ => induct all any not group leaf c
  | .not c => not c (induct all any not group leaf c)
  | .group f c => group f c (induct all any not group leaf c)
  | .compare .. => leaf _ rfl
  | .between .. => leaf _ rfl
  | .oneOf .. => leaf _ rfl
  | .text .. => leaf _ rfl

variable {engine : Regex.Engine} {c : Condition} {parts : List Condition} {f : String}
  {j : Judgement}

theorem compile_not :
    (not c).compile engine = .ok j ↔ ∃ k, c.compile engine = .ok k ∧ j = k.not := by
  rw [compile, map_eq_ok_iff]

theorem compile_group :
    (group f c).compile engine = .ok j ↔ ∃ k, c.compile engine = .ok k ∧ j = .onField f k := by
  rw [compile, map_eq_ok_iff]

def Compiled (engine : Regex.Engine) (parts : List Condition) (js : List Judgement) : Prop :=
  List.Forall₂ (fun c j => c.compile engine = .ok j) parts js

theorem compileParts_eq_mapM (engine : Regex.Engine) (parts : List Condition) :
    compileParts engine parts = parts.mapM (compile engine) := by
  induction parts with
  | nil => rfl
  | cons c parts ih =>
    rw [compileParts, List.mapM_cons, ih]

theorem compileParts_eq_ok_iff {js : List Judgement} :
    compileParts engine parts = .ok js ↔ Compiled engine parts js := by
  rw [compileParts_eq_mapM]
  exact mapM_eq_ok_iff

theorem Compiled.imp_mem {js : List Judgement} (h : Compiled engine parts js)
    {P : Condition → Judgement → Prop} (hp : ∀ c ∈ parts, ∀ j, c.compile engine = .ok j → P c j) :
    List.Forall₂ P parts js :=
  ((List.forall₂_and_left _ _).2 ⟨hp, h⟩).imp fun _ _ h => h.1 _ h.2

theorem compile_all :
    (all parts).compile engine = .ok j ↔ ∃ js, Compiled engine parts js ∧ j = .all js := by
  simp only [compile, map_eq_ok_iff, compileParts_eq_ok_iff]

theorem compile_any :
    (any parts).compile engine = .ok j ↔ ∃ js, Compiled engine parts js ∧ j = .any js := by
  simp only [compile, map_eq_ok_iff, compileParts_eq_ok_iff]

end Condition
end NestedData
