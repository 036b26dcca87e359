import NestedData.Proofs.Filter.FieldOperators
import Mathlib.Logic.Relation
import Mathlib.Logic.Function.Iterate
import Mathlib.Order.WellFounded
/-!
The recursion by which specifications are read. The functions that read call each other on parts of
what they are given, and on documents after these have been expanded, which nests them deeper. The
weight of what is read bounds all of it: expansion never adds to it, no call does, and a chain of
calls that comes back to the function it started from has lost some.
-/

namespace NestedData.Filter

inductive Reader where
  | spec
  | document
  | entry
  | documents
  | fieldSpec
  | operator
  deriving DecidableEq, Repr

inductive Call where
  | spec (v : Value)
  | document (d : Document)
  | entry (key : String) (v : Value)
  | documents (op : Operator) (items : List Value)
  | fieldSpec (field : String) (d : Document)
  | operator (field : String) (op : Operator) (v : Value)

namespace Call

def reader : Call → Reader
  | .spec _ => .spec
  | .document _ => .document
  | .entry .. => .entry
  | .documents .. => .documents
  | .fieldSpec .. => .fieldSpec
  | .operator .. => .operator

def operand : Call → Value
  | .spec v => v
  | .document d => .object d
  | .entry _ v => v
  | .documents _ items => .array items
  | .fieldSpec _ d => .object d
  | .operator _ _ v => v

/-- What a call gives, unless the specification is wrong. -/
abbrev Reading : Call → Type
  | .documents .. => List Condition
  | _ => Condition

end Call

abbrev Results := (c : Call) → SpecResult c.Reading

def results : Results
  | .spec v => Condition.ofSpec v
  | .document d => document d
  | .entry key v => entry key v
  | .documents op items => documents op items
  | .fieldSpec field d => fieldSpec field d
  | .operator field op v => operator field op v

inductive Calls : Call → Call → Prop where
  | spec {d : Document} : Calls (.spec (.object d)) (.document d)
  | entry {d : Document} {e : String × Value} (he : e ∈ expand d) :
      Calls (.document d) (.entry e.1 e.2)
  | documents {key : String} {k : Junction} {items : List Value}
      (hop : Operator.ofKey? key = some k.operator) :
      Calls (.entry key (.array items)) (.documents k.operator items)
  | negated {key : String} {d : Document} (hop : Operator.ofKey? key = some .not) :
      Calls (.entry key (.object d)) (.document d)
  | field {key : String} {d : Document} (hk : isOperatorKey key = false) :
      Calls (.entry key (.object d)) (.fieldSpec key d)
  | item {op : Operator} {items : List Value} {d : Document} (hd : .object d ∈ items) :
      Calls (.documents op items) (.document d)
  | group {field : String} {d : Document} (hd : hasOperator d = false) :
      Calls (.fieldSpec field d) (.document d)
  | operator {field key : String} {op : Operator} {v : Value}
      (hop : Operator.ofKey? key = some op) :
      Calls (.fieldSpec field [(key, v)]) (.operator field op v)
  | negatedField {field : String} {d : Document} :
      Calls (.operator field .not (.object d)) (.fieldSpec field d)
  | fieldItem {field : String} {k : Junction} {items : List Value} {d : Document}
      (hd : .object d ∈ items) :
      Calls (.operator field k.operator (.array items)) (.fieldSpec field d)

def mappingBy {α : Type} (read : Document → SpecResult α) (e : SpecError) : Value → SpecResult α
  | .object d => read d
  | _ => .error e

def itemsBy {α : Type} (read : List Value → SpecResult α) (e : SpecError) : Value → SpecResult α
  | .array (x :: xs) => read (x :: xs)
  | _ => .error e

/-- One round of reading: the result of each call, given the results of the calls that it makes. -/
def round (made : Results) : Results
  | .spec .null => .ok .always
  | .spec v =>
    mappingBy (fun d => made (.document d))
      (.invalidOperand "filter" "a mapping of fields and operators") v
  | .document d => ((expand d).mapM fun e => made (.entry e.1 e.2)).map .all
  | .entry key v =>
    if isOperatorKey key then
      match Operator.ofKey? key with
      | none => .error (.unknownOperator key)
      | some .and => itemsBy (fun xs => (made (.documents .and xs)).map .all) (needsItems .and) v
      | some .or => itemsBy (fun xs => (made (.documents .or xs)).map .any) (needsItems .or) v
      | some .not => mappingBy (fun d => (made (.document d)).map .not) (needsMapping .not) v
      | some op => .error (needsField op)
    else
      match v with
      | .object d => made (.fieldSpec key d)
      | literal => .ok (.compare key .eq literal)
  | .documents op items =>
    items.mapM (mappingBy (fun d => made (.document d))
      (.invalidOperand op.key "a list of mappings"))
  | .fieldSpec field d =>
    if !hasOperator d && !d.isEmpty then (made (.document d)).map (.group field)
    else
      match d with
      | [(key, v)] =>
        match Operator.ofKey? key with
        | none => .error (.unknownOperator key)
        | some op => made (.operator field op v)
      | _ => .error (.fieldArity field d.length)
  | .operator field op v =>
    let fieldSpecs (xs : List Value) := xs.mapM (mappingBy (fun d => made (.fieldSpec field d))
      (.invalidOperand op.key "a list of operator mappings"))
    match op with
    | .not => mappingBy (fun d => (made (.fieldSpec field d)).map .not) (needsMapping .not) v
    | .and => itemsBy (fun xs => (fieldSpecs xs).map .all) (needsItems .and) v
    | .or => itemsBy (fun xs => (fieldSpecs xs).map .any) (needsItems .or) v
    | op => leafCondition field op v

variable {α : Type} {c c' : Call} {made made' : Results} {op : Operator} {key field : String}
  {v : Value} {d : Document} {items : List Value}

theorem mapM_congr {ε β : Type} {f g : α → Except ε β} {xs : List α} (h : ∀ x ∈ xs, f x = g x) :
    xs.mapM f = xs.mapM g := by
  induction xs with
  | nil => rfl
  | cons x xs ih =>
    rw [List.forall_mem_cons] at h
    rw [List.mapM_cons, List.mapM_cons, h.1, ih h.2]

theorem mappingBy_congr {read read' : Document → SpecResult α} {e : SpecError}
    (h : ∀ d, v = .object d → read d = read' d) : mappingBy read e v = mappingBy read' e v := by
  cases v with
  | object d => exact h d rfl
  | null | bool | number | string | array => rfl

theorem itemsBy_congr {read read' : List Value → SpecResult α} {e : SpecError}
    (h : ∀ items, v = .array items → read items = read' items) :
    itemsBy read e v = itemsBy read' e v := by
  cases v with
  | array items =>
    cases items with
    | nil => rfl
    | cons x xs => exact h (x :: xs) rfl
  | null | bool | number | string | object => rfl

theorem mapM_mappingBy_congr {read read' : Document → SpecResult α} {e : SpecError}
    (h : ∀ d, .object d ∈ items → read d = read' d) :
    items.mapM (mappingBy read e) = items.mapM (mappingBy read' e) := by
  apply mapM_congr
  rintro v hv
  exact mappingBy_congr fun d hd => h d (hd ▸ hv)

/-- Only the results of the calls that a call makes matter for its own. -/
theorem round_congr (h : ∀ c', Calls c c' → made c' = made' c') : round made c = round made' c := by
  cases c with
  | spec v =>
    cases v with
    | object d => exact h _ .spec
    | null | bool | number | string | array => rfl
  | document d =>
    have hentries : ((expand d).mapM fun e => made (.entry e.1 e.2)) =
        (expand d).mapM fun e => made' (.entry e.1 e.2) :=
      mapM_congr fun e he => h (.entry e.1 e.2) (.entry he)
    exact congrArg (Except.map Condition.all) hentries
  | entry key v =>
    by_cases hk : isOperatorKey key = true
    · simp only [round, if_pos hk]
      cases hop : Operator.ofKey? key with
      | none => rfl
      | some op =>
        cases op with
        | and =>
          refine itemsBy_congr fun items hv => congrArg (Except.map Condition.all) ?_
          exact h _ (hv ▸ .documents (k := .all) hop)
        | or =>
          refine itemsBy_congr fun items hv => congrArg (Except.map Condition.any) ?_
          exact h _ (hv ▸ .documents (k := .any) hop)
        | not =>
          refine mappingBy_congr fun d hv => congrArg (Except.map Condition.not) ?_
          exact h _ (hv ▸ .negated hop)
        | _ => rfl
    · simp only [round, if_neg hk]
      cases v with
      | object d => exact h _ (.field (Bool.eq_false_iff.2 hk))
      | null | bool | number | string | array => rfl
  | documents op items => exact mapM_mappingBy_congr fun d hd => h _ (.item hd)
  | fieldSpec field d =>
    by_cases hd : (!hasOperator d && !d.isEmpty) = true
    · simp only [round, if_pos hd]
      rw [Bool.and_eq_true, Bool.not_eq_true'] at hd
      exact congrArg (Except.map (Condition.group field)) (h _ (.group hd.1))
    · simp only [round, if_neg hd]
      rcases d with _ | ⟨⟨key, v⟩, _ | ⟨e, d⟩⟩
      · rfl
      · dsimp only
        cases hop : Operator.ofKey? key with
        | none => rfl
        | some op => exact h _ (.operator hop)
      · rfl
  | operator field op v =>
    cases op with
    | and =>
      refine itemsBy_congr fun items hv => congrArg (Except.map Condition.all) ?_
      exact mapM_mappingBy_congr fun d hd => h _ (hv ▸ .fieldItem (k := .all) hd)
    | or =>
      refine itemsBy_congr fun items hv => congrArg (Except.map Condition.any) ?_
      exact mapM_mappingBy_congr fun d hd => h _ (hv ▸ .fieldItem (k := .any) hd)
    | not =>
      refine mappingBy_congr fun d hv => congrArg (Except.map Condition.not) ?_
      exact h _ (hv ▸ .negatedField)
    | _ => rfl

theorem documents_eq (op : Operator) (items : List Value) : documents op items =
    items.mapM (mappingBy document (.invalidOperand op.key "a list of mappings")) := by
  induction items with
  | nil => rw [documents]; rfl
  | cons v items ih =>
    cases v with
    | object d => rw [documents, List.mapM_cons, ih]; rfl
    | null | bool | number | string | array => rw [documents.eq_def]; rfl

theorem fieldSpecs_eq (field : String) (op : Operator) (items : List Value) :
    fieldSpecs field op items = items.mapM
      (mappingBy (fieldSpec field) (.invalidOperand op.key "a list of operator mappings")) := by
  induction items with
  | nil => rw [fieldSpecs]; rfl
  | cons v items ih =>
    cases v with
    | object d => rw [fieldSpecs, List.mapM_cons, ih]; rfl
    | null | bool | number | string | array => rw [fieldSpecs.eq_def]; rfl

/-- The results of the readers are those of a round from themselves. -/
theorem round_results : round results = results := by
  funext c
  cases c with
  | spec v => cases v <;> rfl
  | document d => rw [results, document_eq, entries_eq_mapM]; rfl
  | entry key v =>
    rw [results, entry.eq_def]
    by_cases hk : isOperatorKey key = true
    · simp only [round, if_pos hk]
      cases hop : Operator.ofKey? key with
      | none => rfl
      | some op =>
        cases op with
        | and | or => rcases v with _ | _ | _ | _ | (_ | _) | _ <;> rfl
        | not => cases v <;> rfl
        | _ => rfl
    · simp only [round, if_neg hk]
      cases v <;> rfl
  | documents op items => exact (documents_eq op items).symm
  | fieldSpec field d =>
    rw [results, fieldSpec.eq_def]
    rfl
  | operator field op v =>
    rw [results, operator.eq_def]
    cases op with
    | and | or =>
      cases v with
      | array items =>
        cases items with
        | nil => rfl
        | cons x xs =>
          dsimp only
          rw [fieldSpecs_eq]
          rfl
      | null | bool | number | string | object => rfl
    | not => cases v <;> rfl
    | _ => rfl

/-- Where no weight is lost, the call goes to a reader of lower rank. -/
def Reader.rank : Reader → ℕ
  | .document | .documents => 0
  | .spec | .fieldSpec => 1
  | .entry | .operator => 2

def Call.weight (c : Call) : ℕ := Filter.weight c.operand

def Call.rank (c : Call) : ℕ := c.reader.rank

theorem Call.rank_le (c : Call) : c.rank ≤ 2 := by
  unfold Call.rank
  cases c.reader <;> decide

/-- The second call reads less, or as much by a reader of lower rank. -/
def Descends (c c' : Call) : Prop :=
  c'.weight < c.weight ∨ c'.weight = c.weight ∧ c'.rank < c.rank

theorem Descends.trans {c₁ c₂ c₃ : Call} (h : Descends c₁ c₂) (h' : Descends c₂ c₃) :
    Descends c₁ c₃ := by
  unfold Descends at *
  omega

theorem weight_lt_object {e : String × Value} (h : e ∈ d) : weight e.2 < weight (.object d) := by
  have := weight_lt_members h
  rw [weight]
  omega

theorem weight_expand_le (d : Document) : weight (.object (expand d)) ≤ weight (.object d) := by
  have := weightMembers_expand_le d
  rw [weight, weight]
  omega

theorem Calls.descends (h : Calls c c') : Descends c c' := by
  cases h with
  | entry he => exact Or.inl ((weight_lt_object he).trans_le (weight_expand_le _))
  | item hd | fieldItem hd => exact Or.inl (weight_lt_array hd)
  | @operator _ key _ v hop =>
    have he : (key, v) ∈ [(key, v)] := List.mem_cons_self
    exact Or.inl (weight_lt_object he)
  | spec | documents | negated | field | group | negatedField =>
    exact Or.inr ⟨rfl, by simp [Call.rank, Call.reader, Reader.rank]⟩

theorem descends_of_chain (h : Relation.TransGen Calls c c') : Descends c c' := by
  induction h with
  | single h => exact h.descends
  | tail _ h ih => exact ih.trans h.descends

theorem weight_lt_of_cycle (h : Relation.TransGen Calls c c') (hr : c'.reader = c.reader) :
    c'.weight < c.weight := by
  have hrank : c'.rank = c.rank := congrArg Reader.rank hr
  rcases descends_of_chain h with hweight | ⟨-, hlt⟩
  · exact hweight
  · omega

/-- As many rounds of reading are enough for the call. -/
def Call.rounds (c : Call) : ℕ := 3 * c.weight + c.rank + 1

theorem Calls.rounds_lt (h : Calls c c') : c'.rounds < c.rounds := by
  have hrank : c'.rank ≤ 2 := c'.rank_le
  rcases h.descends with hweight | ⟨hweight, hlt⟩
  · unfold Call.rounds
    omega
  · unfold Call.rounds
    omega

/-- After enough rounds a call has its result, whatever is taken for the results of calls that are
still to be made. -/
theorem iterate_round_eq {n : ℕ} (hn : c.rounds ≤ n) (unread : Results) :
    round^[n] unread c = results c := by
  induction n generalizing c with
  | zero =>
    unfold Call.rounds at hn
    omega
  | succ n ih =>
    rw [Function.iterate_succ_apply']
    have hmade : ∀ c', Calls c c' → round^[n] unread c' = results c' := fun c' hc =>
      ih (Nat.le_of_lt_succ (hc.rounds_lt.trans_le hn))
    exact (round_congr hmade).trans (congrFun round_results c)

theorem wellFounded_calls : WellFounded fun c' c => Calls c c' :=
  Subrelation.wf (fun h => Calls.rounds_lt h) (InvImage.wf Call.rounds wellFounded_lt)

/-- Reading ends without a bound on depth. What a call gives follows from what the calls that it
makes give, and there is a measure of values that expansion does not raise and that every chain of
calls from a reader back to itself lowers; so there is no endless chain of calls, and rounds of
reading as many as the measure allows for leave no call to be made. -/
theorem reading_terminates :
    round results = results ∧
    (∀ c made made', (∀ c', Calls c c' → made c' = made' c') → round made c = round made' c) ∧
    (WellFounded fun c' c => Calls c c') ∧
    ∃ measure : Value → ℕ,
      (∀ d, measure (.object (expand d)) ≤ measure (.object d)) ∧
      (∀ c c', Relation.TransGen Calls c c' → c'.reader = c.reader →
        measure c'.operand < measure c.operand) ∧
      ∀ c n, 3 * measure c.operand + 3 ≤ n → ∀ unread, round^[n] unread c = results c := by
  refine ⟨round_results, fun c made made' => round_congr, wellFounded_calls, weight,
    weight_expand_le, fun c c' => weight_lt_of_cycle, fun c n hn => iterate_round_eq ?_⟩
  refine le_trans ?_ hn
  exact Nat.add_le_add_right (Nat.add_le_add_left c.rank_le _) 1

/-- A dotted key: below its first part a document is read again, in a specification that is nested
deeper than it was written. -/
theorem reading_terminates_dotted :
    let whole : Call := .document [("a.b", .null)]
    let inner : Call := .document [("b", .null)]
    Relation.TransGen Calls whole inner ∧ inner.reader = whole.reader ∧
      ∃ measure : Value → ℕ, measure inner.operand < measure whole.operand := by
  intro whole inner
  have hexpand : expand [("a.b", .null)] = [("a", .object [("b", .null)])] := by cbv
  have hentry : Calls whole (.entry "a" (.object [("b", .null)])) :=
    .entry (e := ("a", .object [("b", .null)])) (hexpand ▸ List.mem_cons_self)
  have hfield : Calls (.entry "a" (.object [("b", .null)])) (.fieldSpec "a" [("b", .null)]) :=
    .field (by decide)
  have hgroup : Calls (.fieldSpec "a" [("b", .null)]) inner := .group (by decide)
  have hcycle : Relation.TransGen Calls whole inner :=
    ((Relation.TransGen.single hentry).tail hfield).tail hgroup
  obtain ⟨-, -, -, measure, -, hlt, -⟩ := reading_terminates
  exact ⟨hcycle, rfl, measure, hlt whole inner hcycle rfl⟩

end NestedData.Filter
