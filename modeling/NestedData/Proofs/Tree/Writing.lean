import NestedData.Proofs.Tree.Paths
import Mathlib.Data.List.Induction
/-!
What a write does to a tree. Putting a node at a path changes nothing at the paths apart from it and
enters at most one key into each branch on the way. A forced write puts the node; an unforced one
does the same when every branch on the way is there, and otherwise leaves the tree as it was.
-/

namespace NestedData.Tree

theorem put_cons (t : Tree) (key : String) (p : List String) (node : Tree) :
    t.put (key :: p) node =
      .branch (Dict.insert key (((t.child? key).getD empty).put p node) t.children) := rfl

theorem find?_put_self (p : List String) (t node : Tree) : (t.put p node).find? p = some node := by
  induction p generalizing t with
  | nil => rfl
  | cons key p ih =>
    rw [put_cons, find?_cons, child?_branch, Dict.get?_insert_self]
    exact ih _

theorem find?_put_append (p q : List String) (t node : Tree) :
    (t.put p node).find? (p ++ q) = node.find? q := by
  rw [find?_append, find?_put_self]
  rfl

/-- The frame of a write: what lies apart from the path stays, and so does what is missing there,
even where the path runs through a leaf that gives way to a branch. -/
theorem find?_put_of_apart {p q : List String} (h : Apart p q) (t node : Tree) :
    (t.put p node).find? q = t.find? q := by
  induction p generalizing q t with
  | nil => exact absurd h (not_apart_nil_left q)
  | cons key p ih =>
    cases q with
    | nil => exact absurd h (not_apart_nil_right _)
    | cons l q =>
      rw [put_cons, find?_cons, find?_cons, child?_branch]
      by_cases hl : l = key
      · subst hl
        have hpq : Apart p q := (apart_cons_iff.1 h).resolve_left (by simp)
        rw [Dict.get?_insert_self, Option.bind_some, ih hpq, find?_getD_empty hpq.ne_nil]
      · rw [Dict.get?_insert_of_ne hl, get?_children]

/-- A branch on the way receives one entry, for the next segment of the path. -/
theorem find?_put_above (a : List String) (key : String) (b : List String) (t node : Tree) :
    (t.put (a ++ key :: b) node).find? a =
      some (.branch (Dict.insert key (((t.find? (a ++ [key])).getD empty).put b node)
        ((t.find? a).getD empty).children)) := by
  induction a generalizing t with
  | nil => rw [List.nil_append, List.nil_append, put_cons, find?_nil, find?_singleton]; rfl
  | cons j a ih =>
    rw [List.cons_append, put_cons, find?_cons, child?_branch, Dict.get?_insert_self,
      Option.bind_some, ih, List.cons_append, find?_cons, find?_cons, getD_find?_getD_empty,
      getD_find?_getD_empty]

/-- So its keys stay in their order, and at most the next segment joins them, at the end. -/
theorem keys_put_above {a b : List String} {key : String} {t : Tree} {cs : List (String × Tree)}
    (h : t.find? a = some (.branch cs)) (node : Tree) :
    ∃ ds, (t.put (a ++ key :: b) node).find? a = some (.branch ds) ∧
      Dict.keys ds = if key ∈ Dict.keys cs then Dict.keys cs else Dict.keys cs ++ [key] := by
  refine ⟨_, find?_put_above a key b t node, ?_⟩
  rw [h, Option.getD_some, children_branch, Dict.keys_insert]

theorem find?_isSome_of_put {p q : List String} {t node : Tree} (hp : (t.find? p).isSome)
    (hq : ((t.put p node).find? q).isSome) :
    (t.find? q).isSome ∨ ∃ r, q = p ++ r ∧ (node.find? r).isSome := by
  by_cases hpq : p <+: q
  · obtain ⟨r, rfl⟩ := hpq
    rw [find?_put_append] at hq
    exact Or.inr ⟨r, rfl, hq⟩
  by_cases hqp : q <+: p
  · exact Or.inl (find?_isSome_above hqp hp)
  · rw [find?_put_of_apart ⟨hpq, hqp⟩] at hq
    exact Or.inl hq

theorem isBranch_of_child? {t c : Tree} {key : String} (h : t.child? key = some c) :
    t.isBranch = true := by
  cases t with
  | leaf v => simp at h
  | branch cs => rfl

theorem write_last (force : Bool) (t : Tree) (key : String) (node : Tree) :
    t.write force [key] node = if !t.isBranch && !force then .stopped t (.leaf 0)
      else .done (.branch (Dict.insert key node t.children)) := by
  rw [write.eq_def]

theorem write_through {t c : Tree} {key : String} (hc : t.child? key = some c) (force : Bool)
    (l : String) (p : List String) (node : Tree) :
    t.write force (key :: l :: p) node =
      ((c.write force (l :: p) node).mapError .deeper).ofChild key t.children := by
  rw [write.eq_def]
  simp [hc, isBranch_of_child? hc]

theorem write_missing {t : Tree} {key : String} (hc : t.child? key = none) (force : Bool)
    (l : String) (p : List String) (node : Tree) :
    t.write force (key :: l :: p) node = if !t.isBranch && !force then .stopped t (.leaf 0)
      else if force then
        ((empty.write force (l :: p) node).mapError .deeper).ofChild key t.children
      else .stopped (.branch t.children) (.missing 0) := by
  rw [write.eq_def]
  simp [hc]

theorem write_forced (t : Tree) (p : List String) (node : Tree) :
    t.write true p node = .done (t.put p node) := by
  induction p generalizing t with
  | nil => rfl
  | cons key p ih =>
    cases p with
    | nil => rw [write_last, Bool.not_true, Bool.and_false]; rfl
    | cons l p =>
      cases hc : t.child? key with
      | none =>
        rw [write_missing hc, Bool.not_true, Bool.and_false, if_neg Bool.false_ne_true,
          if_pos rfl, ih, put_cons t, hc]
        rfl
      | some c => rw [write_through hc, ih, put_cons t, hc]; rfl

def BranchAt (t : Tree) (p : List String) : Prop := ∃ cs, t.find? p = some (.branch cs)

/-- Every place before the end of the path is a branch. -/
def Clear (t : Tree) (p : List String) : Prop := ∀ q, q <+: p → q ≠ p → t.BranchAt q

/-- The first place before the end of the path where no branch stands. -/
def FirstObstacle (t : Tree) (p q : List String) : Prop :=
  q <+: p ∧ q ≠ p ∧ ¬ t.BranchAt q ∧ t.Clear q

theorem branchAt_nil_iff {t : Tree} : t.BranchAt [] ↔ t.isBranch = true := by
  cases t <;> simp [BranchAt, isBranch]

theorem branchAt_cons_iff {t : Tree} {key : String} {p : List String} :
    t.BranchAt (key :: p) ↔ ∃ c, t.child? key = some c ∧ c.BranchAt p := by
  unfold BranchAt
  rw [find?_cons]
  cases t.child? key <;> simp

theorem clear_nil (t : Tree) : t.Clear [] := fun _ hq hne => absurd (List.prefix_nil.1 hq) hne

theorem clear_cons_iff {t : Tree} {key : String} {p : List String} :
    t.Clear (key :: p) ↔
      t.isBranch = true ∧ (p ≠ [] → ∃ c, t.child? key = some c ∧ c.Clear p) := by
  constructor
  · intro h
    refine ⟨branchAt_nil_iff.1 (h [] List.nil_prefix (by simp)), fun hp => ?_⟩
    obtain ⟨c, hc, -⟩ := branchAt_cons_iff.1
      (h [key] ⟨p, rfl⟩ fun he => hp (List.cons.inj he).2.symm)
    refine ⟨c, hc, fun q hq hne => ?_⟩
    obtain ⟨c', hc', hb⟩ := branchAt_cons_iff.1
      (h (key :: q) (List.cons_prefix_cons.2 ⟨rfl, hq⟩) (by simpa using hne))
    rwa [Option.some.inj (hc.symm.trans hc')]
  · rintro ⟨hb, h⟩ q hq hne
    cases q with
    | nil => exact branchAt_nil_iff.2 hb
    | cons l q =>
      obtain ⟨rfl, hqpre⟩ := List.cons_prefix_cons.1 hq
      have hqp : q ≠ p := by simpa using hne
      obtain ⟨c, hc, hcl⟩ := h fun hp => hqp (by simpa [hp] using hqpre)
      exact branchAt_cons_iff.2 ⟨c, hc, hcl q hqpre hqp⟩

/-- A path is clear, or something is the first to stand in its way. -/
theorem clear_or_firstObstacle (t : Tree) (p : List String) :
    t.Clear p ∨ ∃ q, t.FirstObstacle p q := by
  induction p using List.reverseRecOn with
  | nil => exact Or.inl (clear_nil t)
  | append_singleton a key ih =>
    rcases ih with h | ⟨q, hq, hne, hb, hc⟩
    · by_cases hb : t.BranchAt a
      · refine Or.inl fun q hq hne => ?_
        rcases List.prefix_concat_iff.1 hq with rfl | hq
        · exact absurd rfl hne
        · by_cases hqa : q = a
          · exact hqa ▸ hb
          · exact h q hq hqa
      · exact Or.inr ⟨a, List.prefix_append a [key], by simp, hb, h⟩
    · refine Or.inr ⟨q, hq.trans (List.prefix_append a [key]), ?_, hb, hc⟩
      rintro rfl
      exact absurd hq.length_le (by simp)

theorem write_of_clear {t : Tree} {p : List String} (h : t.Clear p) (force : Bool) (node : Tree) :
    t.write force p node = .done (t.put p node) := by
  induction p generalizing t with
  | nil => rfl
  | cons key p ih =>
    obtain ⟨hb, hp⟩ := clear_cons_iff.1 h
    cases p with
    | nil => rw [write_last, hb]; rfl
    | cons l p =>
      obtain ⟨c, hc, hcl⟩ := hp (by simp)
      rw [write_through hc, ih hcl, put_cons t, hc]
      rfl

theorem stopped_ofChild {ε : Type} {t c : Tree} {key : String} (hc : t.child? key = some c)
    (e : ε) : (Edited.stopped c e).ofChild key t.children = .stopped t e := by
  cases t with
  | leaf v => simp at hc
  | branch cs =>
    change Edited.mk (branch (Dict.insert key c cs)) _ = _
    rw [Dict.insert_of_get? hc]
    rfl

theorem write_stopped_of_child {t c : Tree} {key l : String} {p : List String} {node : Tree}
    {o : Obstacle} (hc : t.child? key = some c) (h : c.write false (l :: p) node = .stopped c o) :
    t.write false (key :: l :: p) node = .stopped t o.deeper := by
  rw [write_through hc, h]
  exact stopped_ofChild hc _

theorem write_through_leaf {t : Tree} {a b : List String} {key : String} {v : Value}
    (h : t.find? a = some (.leaf v)) (node : Tree) :
    t.write false (a ++ key :: b) node = .stopped t (.leaf a.length) := by
  induction a generalizing t with
  | nil =>
    obtain rfl := Option.some.inj h
    cases b <;> rfl
  | cons j a ih =>
    rw [find?_cons] at h
    obtain ⟨c, hc, hca⟩ := Option.bind_eq_some_iff.1 h
    have hne : ∃ l p, a ++ key :: b = l :: p := by cases a <;> simp
    obtain ⟨l, p, hlp⟩ := hne
    have hw := ih hca
    rw [hlp] at hw
    rw [List.cons_append, hlp, write_stopped_of_child hc hw]
    rfl

theorem write_past_missing {t : Tree} {a b : List String} {key l : String}
    (ha : t.BranchAt a) (h : t.find? (a ++ [key]) = none) (node : Tree) :
    t.write false (a ++ key :: l :: b) node = .stopped t (.missing a.length) := by
  induction a generalizing t with
  | nil =>
    obtain ⟨cs, hcs⟩ := ha
    obtain rfl := Option.some.inj hcs
    have hc : (branch cs).child? key = none := by rw [← find?_singleton]; exact h
    rw [List.nil_append, write_missing hc]
    rfl
  | cons j a ih =>
    obtain ⟨c, hc, hca⟩ := branchAt_cons_iff.1 ha
    rw [List.cons_append, find?_cons, hc] at h
    have hne : ∃ m p, a ++ key :: l :: b = m :: p := by cases a <;> simp
    obtain ⟨m, p, hmp⟩ := hne
    have hw := ih hca h
    rw [hmp] at hw
    rw [List.cons_append, hmp, write_stopped_of_child hc hw]
    rfl

theorem write_of_firstObstacle {t : Tree} {p q : List String} (h : t.FirstObstacle p q)
    (node : Tree) :
    (∃ v, t.find? q = some (.leaf v) ∧ t.write false p node = .stopped t (.leaf q.length)) ∨
      (t.find? q = none ∧ q ≠ [] ∧
        t.write false p node = .stopped t (.missing (q.length - 1))) := by
  obtain ⟨⟨r, rfl⟩, hne, hb, hc⟩ := h
  cases r with
  | nil => simp at hne
  | cons key b =>
    cases hq : t.find? q with
    | some u =>
      cases u with
      | leaf v => exact Or.inl ⟨v, rfl, write_through_leaf hq node⟩
      | branch cs => exact absurd ⟨cs, hq⟩ hb
    | none =>
      rcases List.eq_nil_or_concat q with rfl | ⟨a, k, rfl⟩
      · simp at hq
      · rw [List.concat_eq_append] at *
        have ha : t.BranchAt a := hc a (List.prefix_append a [k]) (by simp)
        refine Or.inr ⟨rfl, by simp, ?_⟩
        have hw := write_past_missing (l := key) (b := b) ha hq node
        simpa using hw

end NestedData.Tree
