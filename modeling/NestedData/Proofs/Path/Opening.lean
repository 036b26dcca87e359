import NestedData.Proofs.Path.Joining
import NestedData.Proofs.Json.Values
/-!
Opening nested lists to a depth. To open lists to one depth and what comes out to another is to open
them to the sum of the two, and a bounded depth does as much as an unbounded one exactly when no
more lists than that stand in one another. Paths are nested lists, and JSON values open as the
nested lists that they are.
-/

namespace NestedData

namespace Depth

variable {d : Depth} {a b : ℤ}

def add : Depth → Depth → Depth
  | .levels m, .levels n => .levels (m + n)
  | _, _ => .unbounded

instance : Add Depth := ⟨add⟩

theorem add_unbounded (d : Depth) : d + unbounded = unbounded := by
  cases d <;> rfl

theorem zero_add (e : Depth) : levels 0 + e = e := by
  cases e with
  | unbounded => rfl
  | levels n => exact congrArg levels (Nat.zero_add n)

/-- A level that is used up is taken from the first of two depths. -/
theorem next_add (h : d ≠ levels 0) (e : Depth) :
    d + e ≠ levels 0 ∧ (d + e).next = d.next + e := by
  cases d with
  | unbounded => exact ⟨Depth.noConfusion, rfl⟩
  | levels m =>
    have hm : m ≠ 0 := fun hm => h (congrArg levels hm)
    cases e with
    | unbounded => exact ⟨Depth.noConfusion, rfl⟩
    | levels n =>
      refine ⟨fun hzero => ?_, congrArg levels ?_⟩
      · have := Depth.levels.inj hzero
        omega
      · omega

theorem ofInt_of_neg (h : a < 0) : ofInt a = unbounded := if_pos h

theorem ofInt_of_nonneg (h : 0 ≤ a) : ofInt a = levels a.toNat := if_neg (by omega)

theorem ofInt_add (ha : 0 ≤ a) (hb : 0 ≤ b) : ofInt a + ofInt b = ofInt (a + b) := by
  rw [ofInt_of_nonneg ha, ofInt_of_nonneg hb, ofInt_of_nonneg (by omega)]
  exact congrArg levels (Int.toNat_add ha hb).symm

end Depth

/-- What opening lists to a depth obeys. A depth is a number of levels, and a negative one stands
for no bound; `nesting` is how many lists stand in one another. -/
structure DepthLaws {α : Type} (IsList : α → Prop) (nesting : List α → ℕ)
    (spread : Depth → List α → List α) : Prop where
  add : ∀ (xs : List α) (a b : ℤ), 0 ≤ a → 0 ≤ b →
    spread (.ofInt b) (spread (.ofInt a) xs) = spread (.ofInt (a + b)) xs
  flat : ∀ (xs : List α) (d : ℤ), d < 0 → ∀ x ∈ spread (.ofInt d) xs, ¬ IsList x
  settled : ∀ (xs : List α) (d e : ℤ), d < 0 →
    spread (.ofInt e) (spread (.ofInt d) xs) = spread (.ofInt d) xs
  reached : ∀ (xs : List α) (d n : ℤ), d < 0 → 0 ≤ n →
    (spread (.ofInt d) xs = spread (.ofInt n) xs ↔ nesting xs ≤ n)

/-- The laws hold of values that open as others do of which they hold. -/
theorem DepthLaws.comap {α β : Type} {IsList : α → Prop} {nesting : List α → ℕ}
    {spread : Depth → List α → List α} (h : DepthLaws IsList nesting spread) {f : β → α}
    (hf : Function.Injective f) {spread' : Depth → List β → List β}
    (hspread : ∀ d ys, (spread' d ys).map f = spread d (ys.map f)) :
    DepthLaws (fun y => IsList (f y)) (fun ys => nesting (ys.map f)) spread' := by
  have hmap : Function.Injective (List.map f) := List.map_injective_iff.2 hf
  constructor
  · intro ys a b ha hb
    apply hmap
    rw [hspread, hspread, hspread]
    exact h.add _ a b ha hb
  · intro ys d hd y hy
    apply h.flat (ys.map f) d hd
    rw [← hspread]
    exact List.mem_map_of_mem hy
  · intro ys d e hd
    apply hmap
    rw [hspread, hspread]
    exact h.settled _ d e hd
  · intro ys d n hd hn
    rw [← hmap.eq_iff, hspread, hspread]
    exact h.reached _ d n hd hn

namespace Nest

variable {α : Type} {d e : Depth} {n : ℕ} {xs ys : List (Nest α)}

def IsList : Nest α → Prop
  | .item _ => False
  | .list _ => True

mutual
def nesting : Nest α → ℕ
  | .item _ => 0
  | .list items => nestingOf items + 1

def nestingOf : List (Nest α) → ℕ
  | [] => 0
  | x :: xs => max (nesting x) (nestingOf xs)
end

theorem spreadOne_list (h : d ≠ .levels 0) (items : List (Nest α)) :
    spreadOne d (.list items) = spread d.next items := by
  rw [spreadOne, if_neg h]

theorem spreadOne_zero (x : Nest α) : spreadOne (.levels 0) x = [x] := by
  cases x with
  | item a => rfl
  | list items => rfl

theorem spread_singleton (d : Depth) (x : Nest α) : spread d [x] = spreadOne d x :=
  List.append_nil _

theorem spread_append (d : Depth) (xs ys : List (Nest α)) :
    spread d (xs ++ ys) = spread d xs ++ spread d ys := by
  induction xs with
  | nil => rfl
  | cons x xs ih => rw [List.cons_append, spread, spread, ih, List.append_assoc]

mutual
theorem spread_spreadOne (d e : Depth) :
    ∀ x : Nest α, spread e (spreadOne d x) = spreadOne (d + e) x
  | .item a => spread_singleton e (.item a)
  | .list items => by
    by_cases hd : d = .levels 0
    · -- The list is still closed, and the second depth opens it.
      rw [hd, spreadOne_zero, spread_singleton, Depth.zero_add]
    · obtain ⟨hne, hnext⟩ := Depth.next_add hd e
      rw [spreadOne_list hd, spreadOne_list hne, hnext]
      exact spread_spread d.next e items

theorem spread_spread (d e : Depth) :
    ∀ xs : List (Nest α), spread e (spread d xs) = spread (d + e) xs
  | [] => rfl
  | x :: xs => by
    rw [spread, spread_append, spread_spreadOne d e x, spread_spread d e xs, spread]
end

theorem nestingOf_singleton (x : Nest α) : nestingOf [x] = nesting x := Nat.max_zero _

theorem nestingOf_append (xs ys : List (Nest α)) :
    nestingOf (xs ++ ys) = max (nestingOf xs) (nestingOf ys) := by
  induction xs with
  | nil => exact (Nat.zero_max _).symm
  | cons x xs ih => rw [List.cons_append, nestingOf, nestingOf, ih, Nat.max_assoc]

mutual
theorem nestingOf_spreadOne : ∀ (n : ℕ) (x : Nest α),
    nestingOf (spreadOne (.levels n) x) = nesting x - n
  | n, .item a => (Nat.zero_sub n).symm
  | 0, .list items => by
    rw [spreadOne_zero, nestingOf_singleton, Nat.sub_zero]
  | n + 1, .list items => by
    have hitems : nestingOf (spread (.levels n) items) = nestingOf items - n :=
      nestingOf_spread n items
    rw [spreadOne_list (by simp), nesting]
    simp only [Depth.next, Nat.add_sub_cancel]
    omega

theorem nestingOf_spread : ∀ (n : ℕ) (xs : List (Nest α)),
    nestingOf (spread (.levels n) xs) = nestingOf xs - n
  | n, [] => (Nat.zero_sub n).symm
  | n, x :: xs => by
    have hx := nestingOf_spreadOne n x
    have hxs := nestingOf_spread n xs
    rw [spread, nestingOf_append, nestingOf, hx, hxs]
    omega
end

theorem nesting_eq_zero_iff {x : Nest α} : nesting x = 0 ↔ ¬ IsList x := by
  cases x <;> simp [nesting, IsList]

theorem nestingOf_eq_zero_iff : nestingOf xs = 0 ↔ ∀ x ∈ xs, ¬ IsList x := by
  induction xs with
  | nil => simp [nestingOf]
  | cons x xs ih =>
    rw [nestingOf, List.forall_mem_cons, ← nesting_eq_zero_iff, ← ih]
    omega

theorem spread_of_no_list (h : ∀ x ∈ xs, ¬ IsList x) (d : Depth) : spread d xs = xs := by
  induction xs with
  | nil => rfl
  | cons x xs ih =>
    rw [List.forall_mem_cons] at h
    cases x with
    | item a => exact congrArg (Nest.item a :: ·) (ih h.2)
    | list items => exact absurd trivial h.1

theorem no_list_spread_unbounded : ∀ x ∈ spread .unbounded xs, ¬ IsList x := by
  intro x hx
  rw [spread_unbounded] at hx
  obtain ⟨a, -, rfl⟩ := List.mem_map.1 hx
  exact not_false

theorem spread_unbounded_eq_iff :
    spread .unbounded xs = spread (.levels n) xs ↔ nestingOf xs ≤ n := by
  rw [← Nat.sub_eq_zero_iff_le, ← nestingOf_spread, nestingOf_eq_zero_iff]
  constructor
  · intro h
    rw [← h]
    exact no_list_spread_unbounded
  · intro h
    calc spread .unbounded xs = spread (.levels n + .unbounded) xs := by rw [Depth.add_unbounded]
      _ = spread .unbounded (spread (.levels n) xs) := (spread_spread _ _ xs).symm
      _ = spread (.levels n) xs := spread_of_no_list h _

theorem depthLaws : DepthLaws (IsList (α := α)) nestingOf spread := by
  constructor
  · intro xs a b ha hb
    rw [spread_spread, Depth.ofInt_add ha hb]
  · intro xs d hd
    rw [Depth.ofInt_of_neg hd]
    exact no_list_spread_unbounded
  · intro xs d e hd
    rw [Depth.ofInt_of_neg hd]
    exact spread_of_no_list no_list_spread_unbounded _
  · intro xs d n hd hn
    rw [Depth.ofInt_of_neg hd, Depth.ofInt_of_nonneg hn, spread_unbounded_eq_iff]
    omega

end Nest

namespace Value

def IsList : Value → Prop
  | .array _ => True
  | _ => False

mutual
/-- How many lists stand in one another, the value itself among them. What stands in an object does
not count. -/
def nesting : Value → ℕ
  | .array items => nestingOf items + 1
  | _ => 0

def nestingOf : List Value → ℕ
  | [] => 0
  | v :: vs => max (nesting v) (nestingOf vs)
end

theorem nestItems_eq_map (vs : List Value) : nestItems vs = vs.map nest := by
  induction vs with
  | nil => rfl
  | cons v vs ih => rw [nestItems, ih, List.map_cons]

theorem ofNests_map_nest {vs : List Value} (h : ∀ v ∈ vs, ofNest (nest v) = v) :
    ofNests (vs.map nest) = vs := by
  induction vs with
  | nil => rfl
  | cons v vs ih =>
    rw [List.forall_mem_cons] at h
    rw [List.map_cons, ofNests, h.1, ih h.2]

theorem ofNest_nest (v : Value) : ofNest (nest v) = v := by
  induction v with
  | array xs ih =>
    rw [nest, ofNest, nestItems_eq_map, ofNests_map_nest ih]
  | null | bool | number | string | object => rfl

theorem nest_injective : Function.Injective nest :=
  Function.LeftInverse.injective ofNest_nest

theorem isList_nest (v : Value) : (nest v).IsList ↔ v.IsList := by
  cases v <;> rfl

theorem nestingOf_map_nest {vs : List Value} (h : ∀ v ∈ vs, (nest v).nesting = v.nesting) :
    Nest.nestingOf (vs.map nest) = nestingOf vs := by
  induction vs with
  | nil => rfl
  | cons v vs ih =>
    rw [List.forall_mem_cons] at h
    rw [List.map_cons, Nest.nestingOf, nestingOf, h.1, ih h.2]

theorem nesting_nest (v : Value) : (nest v).nesting = v.nesting := by
  induction v with
  | array xs ih => rw [nest, Nest.nesting, nesting, nestItems_eq_map, nestingOf_map_nest ih]
  | null | bool | number | string | object => rfl

theorem exists_spread_map_nest {d : Depth} {vs : List Value}
    (h : ∀ v ∈ vs, ∃ us : List Value, Nest.spreadOne d (nest v) = us.map nest) :
    ∃ us : List Value, Nest.spread d (vs.map nest) = us.map nest := by
  induction vs with
  | nil => exact ⟨[], rfl⟩
  | cons v vs ih =>
    rw [List.forall_mem_cons] at h
    obtain ⟨us, hus⟩ := h.1
    obtain ⟨ws, hws⟩ := ih h.2
    refine ⟨us ++ ws, ?_⟩
    rw [List.map_cons, Nest.spread, hus, hws, List.map_append]

theorem exists_spreadOne_nest (d : Depth) (v : Value) :
    ∃ us : List Value, Nest.spreadOne d (nest v) = us.map nest := by
  induction v generalizing d with
  | array xs ih =>
    by_cases hd : d = .levels 0
    · exact ⟨[.array xs], by rw [hd, Nest.spreadOne_zero, List.map_singleton]⟩
    · rw [nest, Nest.spreadOne_list hd, nestItems_eq_map]
      exact exists_spread_map_nest fun x hx => ih x hx d.next
  | null => exact ⟨[.null], rfl⟩
  | bool b => exact ⟨[.bool b], rfl⟩
  | number n => exact ⟨[.number n], rfl⟩
  | string s => exact ⟨[.string s], rfl⟩
  | object ms => exact ⟨[.object ms], rfl⟩

theorem map_nest_spread (d : Depth) (vs : List Value) :
    (spread d vs).map nest = Nest.spread d (vs.map nest) := by
  obtain ⟨us, hus⟩ := exists_spread_map_nest fun v (_ : v ∈ vs) => exists_spreadOne_nest d v
  rw [spread, nestItems_eq_map, hus, ofNests_map_nest fun v _ => ofNest_nest v]

theorem depthLaws : DepthLaws IsList nestingOf spread := by
  have h := Nest.depthLaws.comap nest_injective map_nest_spread
  have hlist : (fun v => (nest v).IsList) = IsList := funext fun v => propext (isList_nest v)
  have hnesting : (fun vs => Nest.nestingOf (vs.map nest)) = nestingOf :=
    funext fun vs => nestingOf_map_nest fun v _ => nesting_nest v
  rwa [hlist, hnesting] at h

end Value

/-- Nested lists of anything, such as paths, and JSON values open in the same way. What was opened
to one depth and then to another was opened to their sum. Without a bound no list is left, nothing
is left for any other depth to do, and a bounded depth does the same exactly when no more lists than
that stand in one another. -/
theorem depths_add_up :
    (∀ α : Type, DepthLaws (@Nest.IsList α) Nest.nestingOf Nest.spread) ∧
      DepthLaws Value.IsList Value.nestingOf Value.spread :=
  ⟨fun _ => Nest.depthLaws, Value.depthLaws⟩

/-- Three lists stand in one another, and the innermost is empty. A list in an object is not
opened. -/
theorem depths_add_up_nested :
    let a := PathSpec.text "a.b"
    let b := PathSpec.atom "b"
    let paths : List PathSpec := [.list [a, .list [b, .list []]], .empty]
    let one : Value := .number (.integer 1)
    let held : Value := .object [("k", .array [.null])]
    let vs : List Value := [.array [one, .array [held]], .array [.array [.array []]]]
    Nest.spread (.ofInt 2) paths = [a, b, .list [], .empty] ∧
      Nest.spread (.ofInt 1) (Nest.spread (.ofInt 1) paths) = Nest.spread (.ofInt 2) paths ∧
      Nest.spread (.ofInt (-1)) paths = [a, b, .empty] ∧
      Nest.spread (.ofInt 0) (Nest.spread (.ofInt (-1)) paths) = Nest.spread (.ofInt (-1)) paths ∧
      Value.spread (.ofInt 2) vs = [one, held, .array []] ∧
      Value.spread (.ofInt 2) (Value.spread (.ofInt 0) vs) = Value.spread (.ofInt 2) vs ∧
      (∀ v ∈ Value.spread (.ofInt (-1)) vs, ¬ v.IsList) ∧
      Value.spread (.ofInt (-1)) vs = Value.spread (.ofInt 3) vs ∧
      Value.spread (.ofInt (-1)) vs ≠ Value.spread (.ofInt 2) vs := by
  intro a b paths one held vs
  obtain ⟨hnest, hvalue⟩ := depths_add_up
  have hpaths := hnest Fragment
  refine ⟨rfl, hpaths.add paths 1 1 (by decide) (by decide), rfl,
    hpaths.settled paths (-1) 0 (by decide), rfl, hvalue.add vs 0 2 (by decide) (by decide),
    hvalue.flat vs (-1) (by decide), ?_, ?_⟩
  · exact (hvalue.reached vs (-1) 3 (by decide) (by decide)).2 (by decide)
  · intro h
    exact absurd ((hvalue.reached vs (-1) 2 (by decide) (by decide)).1 h) (by decide)

end NestedData
