import NestedData.Number.Basic
import NestedData.Proofs.Number.ShortestDecimal
import Mathlib.Data.List.TakeWhile
/-!
Numbers can be told from their texts. The text of a binary number denotes its shortest decimal, from
which the number is read back, so different numbers have different texts. The text of an integer has
neither a point nor an exponent, and that of a binary number has one of them.
-/

namespace NestedData.Number

open Binary64 (Decimal plainText scientificText exponentText zeros)

def Digits (cs : List Char) : Prop := ∀ c ∈ cs, c.isDigit = true

theorem digits_toDigits (n : ℕ) : Digits (Nat.toDigits 10 n) := fun _ hc =>
  Nat.isDigit_of_mem_toDigits (by decide) le_rfl hc

theorem digits_zeros (n : ℕ) : Digits (zeros n) := by
  intro c hc
  rw [List.eq_of_mem_replicate hc]
  decide

theorem Digits.append {cs ds : List Char} (hc : Digits cs) (hd : Digits ds) : Digits (cs ++ ds) :=
  fun c h => (List.mem_append.1 h).elim (hc c) (hd c)

theorem Digits.not_mem {cs : List Char} (h : Digits cs) {c : Char} (hc : c.isDigit = false) :
    c ∉ cs := fun hm => by rw [h c hm] at hc; cases hc

theorem toDigits_ten_injective {m n : ℕ} (h : Nat.toDigits 10 m = Nat.toDigits 10 n) : m = n := by
  rw [← Nat.ofDigitChars_ten_toDigits (n := m), h, Nat.ofDigitChars_ten_toDigits]

theorem integerText_injective {m n : ℤ} (h : integerText m = integerText n) : m = n := by
  have hsign (k : ℕ) (cs : List Char) : Nat.toDigits 10 k ≠ '-' :: cs := fun he =>
    (digits_toDigits k).not_mem (c := '-') (by decide) (by rw [he]; exact List.mem_cons_self)
  unfold integerText at h
  split at h <;> split at h
  · have := toDigits_ten_injective (List.cons.inj h).2
    omega
  · exact absurd h.symm (hsign _ _)
  · exact absurd h (hsign _ _)
  · have := toDigits_ten_injective h
    omega

theorem integerText_chars {n : ℤ} {c : Char} (h : c ∈ integerText n) :
    c = '-' ∨ c.isDigit = true := by
  unfold integerText at h
  split at h
  · rcases List.mem_cons.1 h with rfl | h
    · exact Or.inl rfl
    · exact Or.inr (digits_toDigits _ c h)
  · exact Or.inr (digits_toDigits _ c h)

theorem span_of_not_mem {c : Char} {before after : List Char} (hb : c ∉ before)
    (ha : after = [] ∨ ∃ rest, after = c :: rest) :
    (before ++ after).takeWhile (· ≠ c) = before ∧ (before ++ after).dropWhile (· ≠ c) = after := by
  have hb' : ∀ a ∈ before, decide (a ≠ c) = true := fun a ham =>
    decide_eq_true fun he => hb (he ▸ ham)
  rw [List.takeWhile_append_of_pos hb', List.dropWhile_append_of_pos hb']
  rcases ha with rfl | ⟨rest, rfl⟩ <;> simp

def exponentOf : List Char → ℤ
  | _ :: sign :: digits =>
    if sign = '-' then -(Nat.ofDigitChars 10 digits 0 : ℤ) else Nat.ofDigitChars 10 digits 0
  | _ => 0

/-- The number that a decimal text without a sign denotes. -/
def textValue (cs : List Char) : ℚ :=
  let mantissa := cs.takeWhile (· ≠ 'e')
  let fraction := (mantissa.dropWhile (· ≠ '.')).drop 1
  Nat.ofDigitChars 10 (mantissa.takeWhile (· ≠ '.') ++ fraction) 0 *
    10 ^ (exponentOf (cs.dropWhile (· ≠ 'e')) - fraction.length)

theorem textValue_of_parts (whole fraction : List Char) {point tail : List Char}
    (hw : Digits whole) (hf : Digits fraction)
    (hp : point = '.' :: fraction ∨ point = [] ∧ fraction = [])
    (ht : tail = [] ∨ ∃ rest, tail = 'e' :: rest) :
    textValue (whole ++ point ++ tail) =
      Nat.ofDigitChars 10 (whole ++ fraction) 0 * 10 ^ (exponentOf tail - fraction.length) := by
  have he : 'e' ∉ whole ++ point := by
    rintro hm
    rcases List.mem_append.1 hm with hm | hm
    · exact hw.not_mem (by decide) hm
    · rcases hp with rfl | ⟨rfl, -⟩
      · exact hf.not_mem (by decide) ((List.mem_cons.1 hm).resolve_left (by decide))
      · cases hm
  have hpoint : point = [] ∨ ∃ rest, point = '.' :: rest :=
    hp.elim (fun h => Or.inr ⟨_, h⟩) fun h => Or.inl h.1
  have hfraction : point.drop 1 = fraction := by
    rcases hp with rfl | ⟨rfl, rfl⟩ <;> rfl
  obtain ⟨hmantissa, htail⟩ := span_of_not_mem he ht
  obtain ⟨hwhole, hdrop⟩ := span_of_not_mem (hw.not_mem (c := '.') (by decide)) hpoint
  unfold textValue
  simp only [hmantissa, htail, hwhole, hdrop, hfraction]

/-- The number with the given digits, the first of which counts for `10 ^ lead`. -/
def leadValue (digits : List Char) (lead : ℤ) : ℚ :=
  Nat.ofDigitChars 10 digits 0 * 10 ^ (lead + 1 - digits.length)

theorem leadValue_append_zeros (digits : List Char) (k : ℕ) (lead : ℤ) :
    leadValue (digits ++ zeros k) lead = leadValue digits lead := by
  unfold leadValue zeros
  have he : lead + 1 - (digits ++ List.replicate k '0').length + k = lead + 1 - digits.length := by
    rw [List.length_append, List.length_replicate]
    push_cast
    ring
  rw [Nat.ofDigitChars_append, Nat.ofDigitChars_replicate_zero, ← he, zpow_add₀ (by norm_num),
    zpow_natCast]
  push_cast
  ring

theorem textValue_plainText {digits : List Char} (hd : Digits digits) (lead : ℤ) :
    textValue (plainText digits lead) = leadValue digits lead := by
  unfold plainText
  split
  · rename_i hlead
    have hparts := textValue_of_parts ['0'] (zeros (-lead - 1).toNat ++ digits)
      (fun c hc => by rw [List.mem_singleton.1 hc]; decide)
      ((digits_zeros (-lead - 1).toNat).append hd) (Or.inl rfl) (Or.inl rfl)
    rw [List.append_nil] at hparts
    refine hparts.trans ?_
    unfold leadValue
    rw [← List.append_assoc, Nat.ofDigitChars_append]
    have hz : Nat.ofDigitChars 10 (['0'] ++ zeros (-lead - 1).toNat) 0 = 0 := by
      rw [Nat.ofDigitChars_append, zeros, Nat.ofDigitChars_replicate_zero]
      rfl
    rw [hz]
    congr 2
    rw [List.length_append, zeros, List.length_replicate]
    push_cast
    simp only [exponentOf]
    omega
  · rename_i hlead
    dsimp only
    split
    · rename_i hlen
      have hparts := textValue_of_parts _ ['0']
        (hd.append (digits_zeros (lead.toNat + 1 - digits.length)))
        (fun c hc => by rw [List.mem_singleton.1 hc]; decide) (Or.inl rfl) (Or.inl rfl)
      rw [List.append_nil] at hparts
      refine hparts.trans ?_
      have hz : digits ++ zeros (lead.toNat + 1 - digits.length) ++ ['0'] =
          digits ++ zeros (lead.toNat + 1 - digits.length + 1) := by
        rw [zeros, zeros, List.replicate_succ', List.append_assoc]
      rw [hz, ← leadValue_append_zeros digits (lead.toNat + 1 - digits.length + 1)]
      unfold leadValue
      congr 2
      rw [List.length_append, zeros, List.length_replicate]
      push_cast
      simp only [exponentOf, List.length_singleton]
      omega
    · rename_i hlen
      have hparts := textValue_of_parts (digits.take (lead.toNat + 1))
        (digits.drop (lead.toNat + 1))
        (fun c hc => hd c (List.mem_of_mem_take hc)) (fun c hc => hd c (List.mem_of_mem_drop hc))
        (Or.inl rfl) (Or.inl rfl)
      rw [List.append_nil] at hparts
      refine hparts.trans ?_
      rw [List.take_append_drop]
      unfold leadValue
      congr 2
      rw [List.length_drop]
      simp only [exponentOf]
      omega

theorem exponentOf_exponentText (lead : ℤ) : exponentOf (exponentText lead) = lead := by
  unfold exponentText
  split
  · simp only [exponentOf, if_true, Nat.ofDigitChars_ten_toDigits]
    omega
  · simp only [exponentOf, Nat.ofDigitChars_ten_toDigits]
    rw [if_neg (by decide)]
    omega

theorem textValue_scientificText {digits : List Char} (hne : digits ≠ []) (hd : Digits digits)
    (lead : ℤ) : textValue (scientificText digits lead) = leadValue digits lead := by
  have htail : ∃ rest, exponentText lead = 'e' :: rest := ⟨_, rfl⟩
  match digits with
  | [] => exact absurd rfl hne
  | [d] =>
    have hparts := textValue_of_parts _ [] hd (fun _ hc => by cases hc)
      (Or.inr ⟨rfl, rfl⟩) (Or.inr htail)
    refine hparts.trans ?_
    rw [exponentOf_exponentText]
    unfold leadValue
    congr 2
    simp
  | d :: d' :: ds =>
    have hparts := textValue_of_parts [d] (d' :: ds)
      (fun c hc => hd c (by rw [List.mem_singleton.1 hc]; exact List.mem_cons_self))
      (fun c hc => hd c (List.mem_cons_of_mem _ hc)) (Or.inl rfl) (Or.inr htail)
    refine hparts.trans ?_
    rw [exponentOf_exponentText]
    unfold leadValue
    congr 2
    rw [List.length_cons, List.length_cons, List.length_cons]
    push_cast
    ring

theorem leadValue_toDigits (d : Decimal) :
    leadValue (Nat.toDigits 10 d.digits)
      (d.exponent + ((Nat.toDigits 10 d.digits).length - 1 : ℕ)) = d.value := by
  have hpos : 0 < (Nat.toDigits 10 d.digits).length := Nat.length_toDigits_pos
  unfold leadValue Decimal.value
  rw [Nat.ofDigitChars_ten_toDigits]
  congr 2
  omega

def trimmed (digits : List Char) : List Char := (digits.reverse.dropWhile (· = '0')).reverse

theorem trimmed_append_zeros (digits : List Char) : ∃ k, trimmed digits ++ zeros k = digits := by
  have hzeros : digits.reverse.takeWhile (· = '0') =
      zeros (digits.reverse.takeWhile (· = '0')).length :=
    List.eq_replicate_iff.2 ⟨rfl, fun c hc => by simpa using List.mem_takeWhile_imp hc⟩
  refine ⟨(digits.reverse.takeWhile (· = '0')).length, ?_⟩
  calc trimmed digits ++ zeros (digits.reverse.takeWhile (· = '0')).length
      = trimmed digits ++ (zeros (digits.reverse.takeWhile (· = '0')).length).reverse := by
        rw [zeros, List.reverse_replicate]
    _ = (digits.reverse.takeWhile (· = '0') ++ digits.reverse.dropWhile (· = '0')).reverse := by
        rw [← hzeros, List.reverse_append, trimmed]
    _ = digits := by rw [List.takeWhile_append_dropWhile, List.reverse_reverse]

theorem absText_eq {x : Binary64} (hx : x.magnitude ≠ 0) :
    ∃ digits lead, Digits digits ∧ digits ≠ [] ∧ leadValue digits lead = x.shortest.value ∧
      (x.absText = plainText digits lead ∨ x.absText = scientificText digits lead) := by
  obtain ⟨k, hk⟩ := trimmed_append_zeros (Nat.toDigits 10 x.shortest.digits)
  have hvalue := leadValue_toDigits x.shortest
  rw [← hk, leadValue_append_zeros, hk] at hvalue
  refine ⟨_, _, fun c hc => digits_toDigits x.shortest.digits c ?_, ?_, hvalue, ?_⟩
  · rw [← hk]
    exact List.mem_append_left _ hc
  · intro hnil
    -- Without digits the value is zero, and zero is below the span of any other number.
    obtain ⟨hlow, -, hopen⟩ := Binary64.shortest_reads hx
    rw [← hvalue, hnil] at hlow hopen
    simp only [leadValue, Nat.ofDigitChars_nil, Nat.cast_zero, zero_mul] at hlow hopen
    rw [Binary64.span_low] at hlow hopen
    have hedge := Binary64.edge_strictMono (Nat.pos_of_ne_zero hx)
    have : Binary64.edge x.magnitude ≤ 0 := by exact_mod_cast hlow
    omega
  · unfold Binary64.absText
    rw [if_neg hx]
    dsimp only
    split
    · exact Or.inl rfl
    · exact Or.inr rfl

theorem textValue_absText {x : Binary64} (hx : x.magnitude ≠ 0) :
    textValue x.absText = x.shortest.value := by
  obtain ⟨digits, lead, hd, hne, hvalue, h | h⟩ := absText_eq hx
  · rw [h, textValue_plainText hd, hvalue]
  · rw [h, textValue_scientificText hne hd, hvalue]

theorem point_or_exponent_mem_absText {x : Binary64} (hx : x.magnitude ≠ 0) :
    '.' ∈ x.absText ∨ 'e' ∈ x.absText := by
  obtain ⟨digits, lead, -, hne, -, h | h⟩ := absText_eq hx
  · left
    rw [h, plainText]
    split
    · simp
    · dsimp only
      split <;> simp
  · right
    rw [h]
    match digits with
    | [] => exact absurd rfl hne
    | [d] => simp [scientificText, exponentText]
    | d :: d' :: ds => simp [scientificText, exponentText]

theorem absText_ne_minus {x : Binary64} (hx : x.magnitude ≠ 0) (cs : List Char) :
    x.absText ≠ '-' :: cs := by
  obtain ⟨digits, lead, hd, hne, -, h⟩ := absText_eq hx
  obtain ⟨d, ds, rfl⟩ := List.exists_cons_of_ne_nil hne
  have hdm : d ≠ '-' := by
    rintro rfl
    exact hd.not_mem (c := '-') (by decide) List.mem_cons_self
  rcases h with h | h <;> rw [h]
  · unfold plainText
    split
    · simp
    · dsimp only
      split <;> simp [hdm]
  · cases ds <;> simp [scientificText, hdm]

/-- The text of a number other than zero tells it from all others. -/
theorem text_injective {x y : Binary64} (hx : x.magnitude ≠ 0) (hy : y.magnitude ≠ 0)
    (h : x.text = y.text) : x = y := by
  have habs (hxy : x.absText = y.absText) : x.magnitude = y.magnitude := by
    have hvalue : x.shortest.value = y.shortest.value := by
      rw [← textValue_absText hx, ← textValue_absText hy, hxy]
    exact Binary64.magnitude_eq_of_reads (Binary64.shortest_reads hx)
      (hvalue ▸ Binary64.shortest_reads hy)
  obtain ⟨sx, mx, fx⟩ := x
  obtain ⟨sy, my, fy⟩ := y
  cases sx <;> cases sy
  · obtain rfl : mx = my := habs h
    rfl
  · exact absurd h (absText_ne_minus hx _)
  · exact absurd h.symm (absText_ne_minus hy _)
  · obtain rfl : mx = my := habs (List.cons.inj h).2
    rfl

theorem text_ne_integerText {x : Binary64} (hx : x.magnitude ≠ 0) (n : ℤ) :
    x.text ≠ integerText n := by
  intro h
  have hsub : ∀ c ∈ x.absText, c = '-' ∨ c.isDigit = true := by
    intro c hc
    refine integerText_chars (n := n) ?_
    rw [← h, Binary64.text]
    split
    · exact List.mem_cons_of_mem _ hc
    · exact hc
  rcases point_or_exponent_mem_absText hx with hm | hm
  · exact absurd (hsub _ hm) (by decide)
  · exact absurd (hsub _ hm) (by decide)

def numeric (c : Char) : Bool := c.isDigit || c ∈ ['-', '+', '.', 'e']

theorem Digits.numeric {cs : List Char} (h : Digits cs) {c : Char} (hc : c ∈ cs) :
    numeric c = true := by
  rw [Number.numeric, h c hc, Bool.true_or]

theorem numeric_of_mem_plainText {digits : List Char} (hd : Digits digits) {lead : ℤ} {c : Char}
    (hc : c ∈ plainText digits lead) : numeric c = true := by
  unfold plainText at hc
  dsimp only at hc
  have hzeros (n : ℕ) (h : c ∈ zeros n) : numeric c = true := (digits_zeros n).numeric h
  have htake (n : ℕ) (h : c ∈ digits.take n) := hd.numeric (List.mem_of_mem_take h)
  have hdrop (n : ℕ) (h : c ∈ digits.drop n) := hd.numeric (List.mem_of_mem_drop h)
  split_ifs at hc <;> simp only [List.mem_append, List.mem_cons, List.not_mem_nil, or_false] at hc
  · rcases hc with (rfl | rfl | hc) | hc
    · rfl
    · rfl
    · exact hzeros _ hc
    · exact hd.numeric hc
  · rcases hc with (hc | hc) | rfl | rfl
    · exact hd.numeric hc
    · exact hzeros _ hc
    · rfl
    · rfl
  · rcases hc with hc | rfl | hc
    · exact htake _ hc
    · rfl
    · exact hdrop _ hc

theorem numeric_of_mem_scientificText {digits : List Char} (hd : Digits digits) {lead : ℤ}
    {c : Char} (hc : c ∈ scientificText digits lead) : numeric c = true := by
  have hexp (h : c ∈ exponentText lead) : numeric c = true := by
    unfold exponentText at h
    rw [List.mem_cons, List.mem_cons] at h
    rcases h with rfl | rfl | h
    · rfl
    · split <;> rfl
    · exact (digits_toDigits _).numeric h
  match digits with
  | [] => cases hc
  | [d] =>
    rcases List.mem_cons.1 hc with rfl | hc
    · exact hd.numeric List.mem_cons_self
    · exact hexp hc
  | d :: d' :: ds =>
    rcases List.mem_append.1 hc with hc | hc
    · rcases List.mem_cons.1 hc with rfl | hc
      · exact hd.numeric List.mem_cons_self
      rcases List.mem_cons.1 hc with rfl | hc
      · rfl
      · exact hd.numeric (List.mem_cons_of_mem _ hc)
    · exact hexp hc

theorem numeric_of_mem_integerText {n : ℤ} {c : Char} (h : c ∈ integerText n) :
    numeric c = true := by
  rcases integerText_chars h with rfl | hc
  · rfl
  · rw [numeric, hc, Bool.true_or]

theorem numeric_of_mem_text {x : Binary64} {c : Char} (h : c ∈ x.text) : numeric c = true := by
  have habs (hc : c ∈ x.absText) : numeric c = true := by
    by_cases hx : x.magnitude = 0
    · rw [Binary64.absText, if_pos hx] at hc
      simp only [List.mem_cons, List.not_mem_nil, or_false] at hc
      rcases hc with rfl | rfl | rfl <;> rfl
    · obtain ⟨digits, lead, hd, -, -, he | he⟩ := absText_eq hx
      · exact numeric_of_mem_plainText hd (he ▸ hc)
      · exact numeric_of_mem_scientificText hd (he ▸ hc)
  unfold Binary64.text at h
  split at h
  · rcases List.mem_cons.1 h with rfl | h
    · rfl
    · exact habs h
  · exact habs h

end NestedData.Number
