import NestedData.Text.Quoted
import Mathlib.Data.List.TakeWhile
/-!
Quoted text can be read back, and no quoted text is the beginning of another one. So a quoted key
is told from whatever follows it.
-/

namespace NestedData.Text

def hexNumber (cs : List Char) : ℕ := cs.foldl (fun n c => 16 * n + (hexValue? c).getD 0) 0

theorem hexValue_digitChar : ∀ n < 16, hexValue? (Nat.digitChar n) = some n := by
  decide

theorem hexNumber_hexText (n : ℕ) : hexNumber (hexText n) = n := by
  unfold hexText
  induction n using Nat.strong_induction_on with
  | _ n ih =>
    rw [Nat.toDigits_eq_if (by decide)]
    split
    · rename_i h
      simp [hexNumber, hexValue_digitChar n h]
    · have hdiv := ih (n / 16) (by omega)
      unfold hexNumber at hdiv ⊢
      rw [List.foldl_append, hdiv]
      simp only [List.foldl_cons, List.foldl_nil, hexValue_digitChar _ (Nat.mod_lt n (by decide)),
        Option.getD_some]
      omega

theorem brace_not_mem_hexText (n : ℕ) : '\x7d' ∉ hexText n := by
  unfold hexText
  induction n using Nat.strong_induction_on with
  | _ n ih =>
    rw [Nat.toDigits_eq_if (by decide)]
    split
    · simp
    · rw [List.mem_append, not_or]
      exact ⟨ih (n / 16) (by omega), by simp⟩

def unescaped (e : Char) : Char :=
  if e = '0' then '\x00'
  else if e = 't' then '\t'
  else if e = 'r' then '\r'
  else if e = 'n' then '\n'
  else e

def readShown : List Char → Option (Char × List Char)
  | [] => none
  | '\\' :: 'u' :: rest =>
    some (Char.ofNat (hexNumber ((rest.drop 1).takeWhile (· ≠ '\x7d'))),
      ((rest.drop 1).dropWhile (· ≠ '\x7d')).drop 1)
  | '\\' :: e :: rest => some (unescaped e, rest)
  | c :: rest => some (c, rest)

theorem readShown_byNumber (c : Char) (rest : List Char) :
    readShown (byNumber c ++ rest) = some (c, rest) := by
  have hne : ∀ a ∈ hexText c.toNat, decide (a ≠ '\x7d') = true := fun a ha =>
    decide_eq_true fun he => brace_not_mem_hexText _ (he ▸ ha)
  have hshape : byNumber c ++ rest =
      '\\' :: 'u' :: '\x7b' :: (hexText c.toNat ++ '\x7d' :: rest) := by
    simp [byNumber]
  rw [hshape, readShown]
  simp only [List.drop_succ_cons, List.drop_zero]
  rw [List.takeWhile_append_of_pos hne, List.dropWhile_append_of_pos hne]
  simp [hexNumber_hexText]

theorem readShown_plain {c : Char} (hc : c ≠ '\\') (rest : List Char) :
    readShown (c :: rest) = some (c, rest) := by
  unfold readShown
  split <;> simp_all

theorem readShown_escapeShown (c : Char) (rest : List Char) :
    readShown (escapeShown c ++ rest) = some (c, rest) := by
  unfold escapeShown
  split_ifs with h0 ht hr hn hq hascii hodd
  · have hc : c = '\x00' := Char.toNat_inj.1 h0
    rw [hc]
    rfl
  · rw [ht]
    rfl
  · rw [hr]
    rfl
  · rw [hn]
    rfl
  · rcases (by simpa using hq : c = '"' ∨ c = '\\') with rfl | rfl <;> rfl
  · exact readShown_plain (fun h => hq (by simp [h])) rest
  · exact readShown_byNumber c rest
  · exact readShown_plain (fun h => hq (by simp [h])) rest

theorem escapeShown_ne_quote (c : Char) (rest rest' : List Char) :
    escapeShown c ++ rest ≠ '"' :: rest' := by
  intro h
  have hread := readShown_escapeShown c rest
  rw [h, readShown_plain (by decide)] at hread
  obtain ⟨rfl, -⟩ := Prod.mk.inj (Option.some.inj hread)
  cases h

theorem flatMap_escapeShown_cancel {as bs r r' : List Char}
    (h : as.flatMap escapeShown ++ '"' :: r = bs.flatMap escapeShown ++ '"' :: r') :
    as = bs ∧ r = r' := by
  induction as generalizing bs with
  | nil =>
    cases bs with
    | nil => exact ⟨rfl, (List.cons.inj h).2⟩
    | cons b bs =>
      rw [List.flatMap_cons, List.append_assoc] at h
      exact absurd h.symm (escapeShown_ne_quote b _ _)
  | cons a as ih =>
    cases bs with
    | nil =>
      rw [List.flatMap_cons, List.append_assoc] at h
      exact absurd h (escapeShown_ne_quote a _ _)
    | cons b bs =>
      rw [List.flatMap_cons, List.flatMap_cons, List.append_assoc, List.append_assoc] at h
      have hread := congrArg readShown h
      rw [readShown_escapeShown, readShown_escapeShown] at hread
      obtain ⟨rfl, hrest⟩ := Prod.mk.inj (Option.some.inj hread)
      obtain ⟨rfl, hr⟩ := ih hrest
      exact ⟨rfl, hr⟩

theorem quoteShown_cancel {s t : String} {r r' : List Char}
    (h : quoteShown s ++ r = quoteShown t ++ r') : s = t ∧ r = r' := by
  unfold quoteShown at h
  rw [List.cons_append, List.cons_append, List.append_assoc, List.append_assoc] at h
  obtain ⟨hs, hr⟩ := flatMap_escapeShown_cancel (List.cons.inj h).2
  exact ⟨String.toList_inj.1 hs, hr⟩

end NestedData.Text
