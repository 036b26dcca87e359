import NestedData.Json.Printer
import NestedData.Json.Token
import NestedData.Proofs.Json.Values
import NestedData.Proofs.Number.DecimalText
import NestedData.Proofs.Text.Quoting
/-!
The tokens of printed values. Scanning the text of a value gives the tokens of the value, and then
goes on with whatever follows the text. Strings are read back from their escapes one character at a
time; a word ends at the mark that follows it.
-/

namespace NestedData.Json.Token

open Value (escape quoted hexDigit)

def Piece.Denotes : Piece → Char → Prop
  | .char d, c => d = c
  | .unit n, c => n = c.toNat ∧ n < 0xD800

theorem spell_unit {n : ℕ} (hn : n < 0xD800) (ps : List Piece) :
    spell (.unit n :: ps) = (spell ps).map (Char.ofNat n :: ·) := by
  have hhigh : isHighSurrogate n = false := by simp [isHighSurrogate]; omega
  have hlow : isLowSurrogate n = false := by simp [isLowSurrogate]; omega
  cases ps with
  | nil => simp [spell, hhigh, hlow]
  | cons p ps =>
    cases p with
    | char c => cases h : spell ps <;> simp [spell, hhigh, hlow, h]
    | unit m => simp [spell, hhigh, hlow]

theorem spell_of_denotes {ps : List Piece} {cs : List Char}
    (h : List.Forall₂ Piece.Denotes ps cs) : spell ps = some cs := by
  induction h with
  | nil => rfl
  | @cons p c ps cs hp _ ih =>
    cases p with
    | char d =>
      obtain rfl : d = c := hp
      simp [spell, ih]
    | unit n =>
      obtain ⟨rfl, hn⟩ := hp
      rw [spell_unit hn, ih, Option.map_some, Char.ofNat_toNat]

theorem scan_named {c e : Char} (he : e ≠ 'u') (h : unescape? e = some c) :
    ∃ p : Piece, p.Denotes c ∧ ∀ ps rest,
      scan (.inText ps) (['\\', e] ++ rest) = scan (.inText (p :: ps)) rest := by
  refine ⟨.char c, rfl, fun ps rest => ?_⟩
  rw [List.cons_append, List.singleton_append, scan, if_neg (by decide), if_pos rfl, scan,
    if_neg he, h]

theorem scan_byNumber {ps : List Piece} {n : ℕ} (hn : n < 256) (rest : List Char) :
    scan (.inText ps) (['\\', 'u', '0', '0', hexDigit (n / 16), hexDigit n] ++ rest) =
      scan (.inText (.unit n :: ps)) rest := by
  have h0 : Text.hexValue? '0' = some 0 := rfl
  have hhigh : Text.hexValue? (hexDigit (n / 16)) = some (n / 16) := by
    rw [hexDigit, Text.hexValue_digitChar _ (Nat.mod_lt _ (by decide)),
      Nat.mod_eq_of_lt (by omega)]
  have hlow : Text.hexValue? (hexDigit n) = some (n % 16) :=
    Text.hexValue_digitChar _ (Nat.mod_lt _ (by decide))
  have hsum : 16 * (n / 16) + n % 16 = n := Nat.div_add_mod n 16
  simp [scan, h0, hhigh, hlow, hsum]

theorem scan_escape (c : Char) : ∃ p : Piece, p.Denotes c ∧ ∀ ps rest,
    scan (.inText ps) (escape c ++ rest) = scan (.inText (p :: ps)) rest := by
  unfold escape
  split_ifs with hq hb hn hr ht h8 h12 h32
  · exact scan_named (by decide) (by rw [hq]; rfl)
  · exact scan_named (by decide) (by rw [hb]; rfl)
  · exact scan_named (by decide) (by rw [hn]; rfl)
  · exact scan_named (by decide) (by rw [hr]; rfl)
  · exact scan_named (by decide) (by rw [ht]; rfl)
  · exact scan_named (by decide) (by rw [← Char.ofNat_toNat c, h8]; rfl)
  · exact scan_named (by decide) (by rw [← Char.ofNat_toNat c, h12]; rfl)
  · refine ⟨.unit c.toNat, ⟨rfl, by omega⟩, fun ps rest => ?_⟩
    exact scan_byNumber (by omega) rest
  · refine ⟨.char c, rfl, fun ps rest => ?_⟩
    rw [List.singleton_append, scan, if_neg hq, if_neg hb, if_neg h32]

theorem scan_escapes (cs : List Char) : ∃ qs : List Piece, List.Forall₂ Piece.Denotes qs cs ∧
    ∀ ps rest, scan (.inText ps) (cs.flatMap escape ++ rest) =
      scan (.inText (qs.reverse ++ ps)) rest := by
  -- The scanner collects the pieces in reverse.
  induction cs with
  | nil => exact ⟨[], .nil, fun ps rest => rfl⟩
  | cons c cs ih =>
    obtain ⟨p, hp, hc⟩ := scan_escape c
    obtain ⟨qs, hqs, hcs⟩ := ih
    refine ⟨p :: qs, .cons hp hqs, fun ps rest => ?_⟩
    rw [List.flatMap_cons, List.append_assoc, hc, hcs, List.reverse_cons, List.append_assoc,
      List.singleton_append]

theorem scan_quoted (s : String) (rest : List Char) :
    scan .between (quoted s ++ rest) = (scan .between rest).map (.text (some s) :: ·) := by
  obtain ⟨qs, hqs, hs⟩ := scan_escapes s.toList
  have hopen : scan .between (quoted s ++ rest) =
      scan (.inText []) (s.toList.flatMap escape ++ '"' :: rest) := by
    rw [quoted, List.cons_append, List.cons_append, List.append_assoc, List.singleton_append, scan,
      if_neg (by decide), if_pos rfl]
  have htoken : ofPieces (qs.reverse ++ []) = .text (some s) := by
    rw [ofPieces, List.append_nil, List.reverse_reverse, spell_of_denotes hqs, Option.map_some,
      String.ofList_toList]
  rw [hopen, hs, scan, if_pos rfl, htoken]

def InWord (c : Char) : Prop := isBlank c = false ∧ c ≠ '"' ∧ mark? c = none

instance (c : Char) : Decidable (InWord c) := inferInstanceAs (Decidable (_ ∧ _ ∧ _))

theorem inWord_of_all {w : List Char} (h : (w.all fun c => decide (InWord c)) = true) :
    ∀ c ∈ w, InWord c := fun c hc => of_decide_eq_true (List.all_eq_true.1 h c hc)

theorem inWord_of_numeric {c : Char} (h : Number.numeric c = true) : InWord c := by
  have hne {d : Char} (hd : Number.numeric d = false) : c ≠ d := by
    rintro rfl
    rw [h] at hd
    cases hd
  refine ⟨?_, hne rfl, ?_⟩
  · simp [isBlank, hne (d := ' ') rfl, hne (d := '\t') rfl, hne (d := '\n') rfl,
      hne (d := '\r') rfl]
  · simp [mark?, hne (d := '\x7b') rfl, hne (d := '\x7d') rfl, hne (d := '[') rfl,
      hne (d := ']') rfl, hne (d := ':') rfl, hne (d := ',') rfl]

/-- A text that a word in front of it does not run into. -/
def Ends (rest : List Char) : Prop := rest = [] ∨ ∃ c cs, rest = c :: cs ∧ (mark? c).isSome

theorem mark_not_blank {c : Char} {t : Token} (h : mark? c = some t) :
    isBlank c = false ∧ c ≠ '"' := by
  constructor
  · by_contra hb
    simp only [isBlank, Bool.not_eq_false, Bool.or_eq_true, decide_eq_true_eq] at hb
    rcases hb with ((rfl | rfl) | rfl) | rfl <;> cases h
  · rintro rfl
    cases h

theorem scan_mark {c : Char} {t : Token} (h : mark? c = some t) (rest : List Char) :
    scan .between (c :: rest) = (scan .between rest).map (t :: ·) := by
  obtain ⟨hblank, hquote⟩ := mark_not_blank h
  rw [scan, hblank, if_neg Bool.false_ne_true, if_neg hquote, h]

theorem scan_inWord {w : List Char} (hw : ∀ c ∈ w, InWord c) (before : List Char)
    (rest : List Char) : scan (.inWord before) (w ++ rest) =
      scan (.inWord (w.reverse ++ before)) rest := by
  induction w generalizing before with
  | nil => rfl
  | cons c w ih =>
    obtain ⟨hblank, hquote, hmark⟩ := hw c List.mem_cons_self
    rw [List.cons_append, scan, hblank, if_neg Bool.false_ne_true, if_neg hquote, hmark]
    rw [ih (fun d hd => hw d (List.mem_cons_of_mem c hd)), List.reverse_cons, List.append_assoc,
      List.singleton_append]

theorem scan_word_end {rest : List Char} (h : Ends rest) (w : List Char) :
    scan (.inWord w) rest = (scan .between rest).map (.word w.reverse :: ·) := by
  rcases h with rfl | ⟨c, cs, rfl, hc⟩
  · rfl
  · obtain ⟨t, ht⟩ := Option.isSome_iff_exists.1 hc
    obtain ⟨hblank, hquote⟩ := mark_not_blank ht
    rw [scan_mark ht, scan, hblank, if_neg Bool.false_ne_true, if_neg hquote, ht]
    cases scan .between cs <;> rfl

theorem scan_word {w rest : List Char} (hne : w ≠ []) (hw : ∀ c ∈ w, InWord c) (h : Ends rest) :
    scan .between (w ++ rest) = (scan .between rest).map (.word w :: ·) := by
  obtain ⟨c, w, rfl⟩ := List.exists_cons_of_ne_nil hne
  obtain ⟨hblank, hquote, hmark⟩ := hw c List.mem_cons_self
  have hfirst : scan .between (c :: w ++ rest) = scan (.inWord [c]) (w ++ rest) := by
    rw [List.cons_append, scan, hblank, if_neg Bool.false_ne_true, if_neg hquote, hmark]
  rw [hfirst, scan_inWord (fun d hd => hw d (List.mem_cons_of_mem c hd)), scan_word_end h,
    List.reverse_append, List.reverse_reverse, List.reverse_singleton, List.singleton_append]

end NestedData.Json.Token

namespace NestedData.Value

open NestedData.Json (Token)
open NestedData.Json.Token (scan Ends InWord scan_mark scan_quoted scan_word)

mutual
def tokens : Value → List Token
  | .null => [.word "null".toList]
  | .bool b => [.word (if b then "true" else "false").toList]
  | .number n => [.word n.text]
  | .string s => [.text (some s)]
  | .array items => .openArray :: itemTokens items ++ [.closeArray]
  | .object members => .openObject :: memberTokens members ++ [.closeObject]

def itemTokens : List Value → List Token
  | [] => []
  | v :: rest => tokens v ++ moreItemTokens rest

def moreItemTokens : List Value → List Token
  | [] => []
  | v :: rest => .comma :: tokens v ++ moreItemTokens rest

def memberTokens : List (String × Value) → List Token
  | [] => []
  | (k, v) :: rest => .text (some k) :: .colon :: tokens v ++ moreMemberTokens rest

def moreMemberTokens : List (String × Value) → List Token
  | [] => []
  | (k, v) :: rest => .comma :: .text (some k) :: .colon :: tokens v ++ moreMemberTokens rest
end

/-- The text of a value is cut into its tokens, and what follows it into its own. -/
def ScansTo (text : List Char) (tokens : List Token) : Prop :=
  ∀ rest, Ends rest → scan .between (text ++ rest) = (scan .between rest).map (tokens ++ ·)

theorem ScansTo.nil : ScansTo [] [] := fun rest _ => by
  cases h : scan .between rest <;> simp [h]

theorem ScansTo.mark {c : Char} {t : Token} {b : List Char} {ts : List Token}
    (hc : Token.mark? c = some t) (hb : ScansTo b ts) : ScansTo (c :: b) (t :: ts) := by
  intro rest hrest
  rw [List.cons_append, scan_mark hc, hb rest hrest, Option.map_map]
  rfl

theorem ScansTo.quoted {b : List Char} {ts : List Token} (hb : ScansTo b ts) (s : String) :
    ScansTo (quoted s ++ b) (.text (some s) :: ts) := by
  intro rest hrest
  rw [List.append_assoc, scan_quoted, hb rest hrest, Option.map_map]
  rfl

theorem ScansTo.append {a b : List Char} {ts us : List Token} (ha : ScansTo a ts)
    (hb : ScansTo b us) (he : ∀ rest, Ends rest → Ends (b ++ rest)) :
    ScansTo (a ++ b) (ts ++ us) := by
  intro rest hrest
  rw [List.append_assoc, ha _ (he rest hrest), hb rest hrest, Option.map_map]
  congr 1
  funext vs
  exact (List.append_assoc ts us vs).symm

theorem scansTo_word {w : List Char} (hne : w ≠ []) (hw : ∀ c ∈ w, InWord c) :
    ScansTo w [.word w] := fun _ hrest => scan_word hne hw hrest

theorem ends_cons {c : Char} (hc : (Token.mark? c).isSome) (cs : List Char) : Ends (c :: cs) :=
  Or.inr ⟨c, cs, rfl, hc⟩

theorem ends_moreItems (vs : List Value) {rest : List Char} (h : Ends rest) :
    Ends (printMoreItems vs ++ rest) := by
  cases vs with
  | nil => exact h
  | cons v vs => exact ends_cons rfl _

theorem ends_moreMembers (ms : List (String × Value)) {rest : List Char} (h : Ends rest) :
    Ends (printMoreMembers ms ++ rest) := by
  cases ms with
  | nil => exact h
  | cons e ms => exact ends_cons rfl _

theorem scansTo_moreItems {vs : List Value} (h : ∀ v ∈ vs, ScansTo v.print v.tokens) :
    ScansTo (printMoreItems vs) (moreItemTokens vs) := by
  induction vs with
  | nil => exact .nil
  | cons v vs ih =>
    obtain ⟨hv, hvs⟩ := List.forall_mem_cons.1 h
    exact .mark rfl (hv.append (ih hvs) fun _ => ends_moreItems vs)

theorem scansTo_moreMembers {ms : List (String × Value)}
    (h : ∀ e ∈ ms, ScansTo e.2.print e.2.tokens) :
    ScansTo (printMoreMembers ms) (moreMemberTokens ms) := by
  induction ms with
  | nil => exact .nil
  | cons e ms ih =>
    obtain ⟨he, hms⟩ := List.forall_mem_cons.1 h
    have htext : printMoreMembers (e :: ms) =
        ',' :: (quoted e.1 ++ ':' :: (e.2.print ++ printMoreMembers ms)) := by
      simp [printMoreMembers]
    rw [htext]
    exact .mark rfl (.quoted (.mark rfl (he.append (ih hms) fun _ => ends_moreMembers ms)) e.1)

theorem numberText_ne_nil (n : Number) : n.text ≠ [] := by
  cases n with
  | integer n =>
    change Number.integerText n ≠ []
    unfold Number.integerText
    split
    · exact List.cons_ne_nil _ _
    · exact Nat.toDigits_ne_nil
  | binary x =>
    change x.text ≠ []
    have habs : x.absText ≠ [] := by
      by_cases hx : x.magnitude = 0
      · rw [Binary64.absText, if_pos hx]
        exact List.cons_ne_nil _ _
      · rcases Number.point_or_exponent_mem_absText hx with h | h <;> exact List.ne_nil_of_mem h
    unfold Binary64.text
    split
    · exact List.cons_ne_nil _ _
    · exact habs

theorem numeric_of_mem_numberText {n : Number} {c : Char} (h : c ∈ n.text) :
    Number.numeric c = true := by
  cases n with
  | integer n => exact Number.numeric_of_mem_integerText h
  | binary x => exact Number.numeric_of_mem_text h

theorem scansTo_print (v : Value) : ScansTo v.print v.tokens := by
  have hclose {c : Char} {t : Token} (hc : Token.mark? c = some t) : ScansTo [c] [t] :=
    .mark hc .nil
  have hends {c : Char} (hc : (Token.mark? c).isSome) (rest : List Char) (_ : Ends rest) :
      Ends ([c] ++ rest) := ends_cons hc rest
  induction v with
  | null => exact scansTo_word (by decide) (Token.inWord_of_all (by decide))
  | bool b => cases b <;> exact scansTo_word (by decide) (Token.inWord_of_all (by decide))
  | number n => exact scansTo_word (numberText_ne_nil n) fun _ hc =>
    Token.inWord_of_numeric (numeric_of_mem_numberText hc)
  | string s =>
    have h := ScansTo.nil.quoted s
    rwa [List.append_nil] at h
  | array vs ih =>
    refine .mark rfl (.append ?_ (hclose rfl) (hends rfl))
    cases vs with
    | nil => exact .nil
    | cons v vs =>
      obtain ⟨hv, hvs⟩ := List.forall_mem_cons.1 ih
      exact hv.append (scansTo_moreItems hvs) fun _ => ends_moreItems vs
  | object ms ih =>
    refine .mark rfl (.append ?_ (hclose rfl) (hends rfl))
    cases ms with
    | nil => exact .nil
    | cons e ms =>
      obtain ⟨he, hms⟩ := List.forall_mem_cons.1 ih
      have htail := he.append (scansTo_moreMembers hms) fun _ => ends_moreMembers ms
      rw [printMembers, memberTokens, List.append_assoc]
      exact .quoted (.mark rfl htail) e.1

theorem scan_text (v : Value) : scan .between v.text.toList = some v.tokens := by
  have h := scansTo_print v [] (Or.inl rfl)
  rw [List.append_nil] at h
  rw [text, String.toList_ofList, h]
  simp [scan]

end NestedData.Value
