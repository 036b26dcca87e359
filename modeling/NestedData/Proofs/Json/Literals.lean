import NestedData.Json.Reader
import NestedData.Proofs.Json.Tokens
/-!
The literals of printed values. Printed text is read as the literal of its value, part by part, with
the numbers as they are written.
-/

namespace NestedData.Value

open NestedData.Json (Literal Token number?)
open NestedData.Json.Literal (Frame State give)

mutual
/-- What the text of a value is read as, if all of its numbers are. -/
def literal? : Value → Option Literal
  | .null => some .null
  | .bool b => some (.bool b)
  | .number n => (number? n.text).map .number
  | .string s => some (.string (some s))
  | .array items => (itemLiterals? items).map .array
  | .object members => (memberLiterals? members).map .object

def itemLiterals? : List Value → Option (List Literal)
  | [] => some []
  | v :: rest => do
    let l ← literal? v
    let ls ← itemLiterals? rest
    return l :: ls

def memberLiterals? : List (String × Value) → Option (List (Option String × Literal))
  | [] => some []
  | (k, v) :: rest => do
    let l ← literal? v
    let ls ← memberLiterals? rest
    return (some k, l) :: ls
end

/-- The tokens are read as a value, if as any then as the given one, and reading goes on. -/
def ReadsAs (ts : List Token) (l? : Option Literal) : Prop :=
  ∀ frames rest, (ts ++ rest).foldlM State.step (.value frames) =
    l?.bind fun l => rest.foldlM State.step (give l frames)

theorem readsAs_word {w : List Char} {l? : Option Literal} (h : Literal.ofWord? w = l?) :
    ReadsAs [.word w] l? := by
  intro frames rest
  rw [List.singleton_append, List.foldlM_cons]
  change ((Literal.ofWord? w).map (give · frames)).bind _ = _
  rw [h]
  cases l? <;> rfl

theorem readsAs_moreItems {vs : List Value} (h : ∀ v ∈ vs, ReadsAs v.tokens v.literal?)
    (frames : List Frame) (parts : List Literal) (rest : List Token) :
    (moreItemTokens vs ++ .closeArray :: rest).foldlM State.step
        (.separator (.items parts :: frames)) =
      (itemLiterals? vs).bind fun ls =>
        rest.foldlM State.step (give (.array (parts.reverse ++ ls)) frames) := by
  induction vs generalizing parts with
  | nil =>
    simp [moreItemTokens, itemLiterals?, State.step]
  | cons v vs ih =>
    obtain ⟨hv, hvs⟩ := List.forall_mem_cons.1 h
    rw [moreItemTokens, List.cons_append, List.cons_append, List.foldlM_cons, List.append_assoc]
    change (v.tokens ++ _).foldlM State.step (.value (.items parts :: frames)) = _
    rw [hv, itemLiterals?]
    cases v.literal? with
    | none => rfl
    | some l =>
      change (moreItemTokens vs ++ _).foldlM State.step
        (.separator (.items (l :: parts) :: frames)) = _
      rw [ih hvs]
      cases itemLiterals? vs with
      | none => rfl
      | some ls => simp [give]

theorem readsAs_moreMembers {ms : List (String × Value)}
    (h : ∀ e ∈ ms, ReadsAs e.2.tokens e.2.literal?) (frames : List Frame)
    (parts : List (Option String × Literal)) (rest : List Token) :
    (moreMemberTokens ms ++ .closeObject :: rest).foldlM State.step
        (.separator (.members parts :: frames)) =
      (memberLiterals? ms).bind fun ls =>
        rest.foldlM State.step (give (.object (parts.reverse ++ ls)) frames) := by
  induction ms generalizing parts with
  | nil => simp [moreMemberTokens, memberLiterals?, State.step]
  | cons e ms ih =>
    obtain ⟨k, v⟩ := e
    obtain ⟨hv, hms⟩ := List.forall_mem_cons.1 h
    have htokens : moreMemberTokens ((k, v) :: ms) ++ Token.closeObject :: rest =
        .comma :: .text (some k) :: .colon ::
          (v.tokens ++ (moreMemberTokens ms ++ .closeObject :: rest)) := by
      simp [moreMemberTokens]
    rw [htokens]
    change (v.tokens ++ _).foldlM State.step (.value (.member parts (some k) :: frames)) = _
    rw [hv, memberLiterals?]
    cases v.literal? with
    | none => rfl
    | some l =>
      change (moreMemberTokens ms ++ _).foldlM State.step
        (.separator (.members ((some k, l) :: parts) :: frames)) = _
      rw [ih hms]
      cases memberLiterals? ms with
      | none => rfl
      | some ls => simp [give]

theorem tokens_eq_cons (v : Value) : ∃ t ts, v.tokens = t :: ts ∧ t ≠ .closeArray := by
  cases v <;> exact ⟨_, _, rfl, by simp⟩

theorem step_firstItem {t : Token} (ht : t ≠ .closeArray) (frames : List Frame) :
    State.step (.firstPart (.items [] :: frames)) t =
      State.step (.value (.items [] :: frames)) t := by
  cases t with
  | closeArray => exact absurd rfl ht
  | _ => rfl

theorem readsAs_array {vs : List Value} (h : ∀ v ∈ vs, ReadsAs v.tokens v.literal?) :
    ReadsAs (array vs).tokens (array vs).literal? := by
  intro frames rest
  have htokens : (array vs).tokens ++ rest =
      .openArray :: (itemTokens vs ++ .closeArray :: rest) := by
    simp [tokens]
  rw [htokens, literal?]
  change (itemTokens vs ++ _).foldlM State.step (.firstPart (.items [] :: frames)) = _
  cases vs with
  | nil => rfl
  | cons v vs =>
    obtain ⟨hv, hvs⟩ := List.forall_mem_cons.1 h
    obtain ⟨t, ts, htokens, ht⟩ := v.tokens_eq_cons
    have hfirst : (itemTokens (v :: vs) ++ Token.closeArray :: rest).foldlM State.step
          (.firstPart (.items [] :: frames)) =
        (v.tokens ++ (moreItemTokens vs ++ .closeArray :: rest)).foldlM State.step
          (.value (.items [] :: frames)) := by
      rw [itemTokens, List.append_assoc, htokens, List.cons_append, List.foldlM_cons,
        List.foldlM_cons, step_firstItem ht]
    rw [hfirst, hv, itemLiterals?]
    cases v.literal? with
    | none => rfl
    | some l =>
      change (moreItemTokens vs ++ _).foldlM State.step (.separator (.items [l] :: frames)) = _
      rw [readsAs_moreItems hvs]
      cases itemLiterals? vs <;> rfl

theorem readsAs_object {ms : List (String × Value)}
    (h : ∀ e ∈ ms, ReadsAs e.2.tokens e.2.literal?) :
    ReadsAs (object ms).tokens (object ms).literal? := by
  intro frames rest
  have htokens : (object ms).tokens ++ rest =
      .openObject :: (memberTokens ms ++ .closeObject :: rest) := by
    simp [tokens]
  rw [htokens, literal?]
  change (memberTokens ms ++ _).foldlM State.step (.firstPart (.members [] :: frames)) = _
  cases ms with
  | nil => rfl
  | cons e ms =>
    obtain ⟨k, v⟩ := e
    obtain ⟨hv, hms⟩ := List.forall_mem_cons.1 h
    have hmembers : memberTokens ((k, v) :: ms) ++ Token.closeObject :: rest =
        .text (some k) :: .colon ::
          (v.tokens ++ (moreMemberTokens ms ++ .closeObject :: rest)) := by
      simp [memberTokens]
    rw [hmembers]
    change (v.tokens ++ _).foldlM State.step (.value (.member [] (some k) :: frames)) = _
    rw [hv, memberLiterals?]
    cases v.literal? with
    | none => rfl
    | some l =>
      change (moreMemberTokens ms ++ _).foldlM State.step
        (.separator (.members [(some k, l)] :: frames)) = _
      rw [readsAs_moreMembers hms]
      cases memberLiterals? ms <;> rfl

theorem ofWord?_numberText (n : Number) :
    Literal.ofWord? n.text = (number? n.text).map .number := by
  have hne {w : List Char} (hw : ∃ c ∈ w, Number.numeric c = false) : n.text ≠ w := by
    rintro rfl
    obtain ⟨c, hc, hn⟩ := hw
    rw [numeric_of_mem_numberText hc] at hn
    cases hn
  unfold Literal.ofWord?
  rw [if_neg (hne ⟨'n', by decide, rfl⟩), if_neg (hne ⟨'t', by decide, rfl⟩),
    if_neg (hne ⟨'f', by decide, rfl⟩)]

theorem readsAs_tokens (v : Value) : ReadsAs v.tokens v.literal? := by
  induction v with
  | null => exact readsAs_word rfl
  | bool b => cases b <;> exact readsAs_word rfl
  | number n => exact readsAs_word (ofWord?_numberText n)
  | string s => exact fun frames rest => rfl
  | array vs ih => exact readsAs_array ih
  | object ms ih => exact readsAs_object ih

theorem ofText?_text (v : Value) : Literal.ofText? v.text = v.literal? := by
  have hread : v.tokens.foldlM State.step (.value []) =
      v.literal?.bind fun l => some (.finished l) := by
    have h := v.readsAs_tokens [] []
    rwa [List.append_nil] at h
  rw [Literal.ofText?, scan_text, Option.bind_some, Literal.ofTokens?, hread]
  cases v.literal? <;> rfl

end NestedData.Value
