import Agenda.Number.Based
import Agenda.Text.Quoted
import Agenda.Text.Split
import Mathlib

/-!
# Quoted texts read back

A quoted text tells what it quotes and where it ends: what is written for a character is read back as that character
in front of whatever follows (`readQuotedChar_append`), so no two texts are quoted alike, not even with more behind them
(`flatMap_quotedChar_inj`). All that is written can be seen (`isSeen_of_mem_quoted`).
-/

namespace Agenda

variable {c d : Char} {n : Nat}

/-! ### Hexadecimal digits -/

namespace Number

theorem digitValue?_digitChar : ∀ d < 16, digitValue? 16 (Nat.digitChar d) = some d := by
  decide

theorem exists_of_mem_toDigits (h : c ∈ Nat.toDigits 16 n) : ∃ d < 16, c = Nat.digitChar d := by
  induction n using Nat.strongRecOn with
  | ind n ih =>
    rcases Nat.lt_or_ge n 16 with hn | hn
    · rw [Nat.toDigits_of_lt_base hn, List.mem_singleton] at h
      exact ⟨n, hn, h⟩
    · rw [Nat.toDigits_of_base_le (by omega) hn, List.mem_append, List.mem_singleton] at h
      rcases h with h | h
      · exact ih (n / 16) (by omega) h
      · exact ⟨n % 16, Nat.mod_lt n (by omega), h⟩

theorem exists_values_toDigits (n : Nat) : ∃ vs, (Nat.toDigits 16 n).mapM (digitValue? 16) = some vs ∧
    vs.foldl (fun n d => n * 16 + d) 0 = n := by
  induction n using Nat.strongRecOn with
  | ind n ih =>
    rcases Nat.lt_or_ge n 16 with hn | hn
    · exact ⟨[n], by simp [Nat.toDigits_of_lt_base hn, digitValue?_digitChar n hn], by simp⟩
    · obtain ⟨vs, hvs, hvalue⟩ := ih (n / 16) (by omega)
      have hlast := digitValue?_digitChar (n % 16) (Nat.mod_lt n (by omega))
      refine ⟨vs ++ [n % 16], ?_, ?_⟩
      · simp [Nat.toDigits_of_base_le (show 1 < 16 by omega) hn, List.mapM_append, hvs, hlast]
      · rw [List.foldl_append, hvalue]
        exact Nat.div_add_mod' n 16

theorem readBased_toDigits (n : Nat) : readBased 16 (Nat.toDigits 16 n) = some n := by
  obtain ⟨vs, hvs, hvalue⟩ := exists_values_toDigits n
  simp [readBased, Nat.toDigits_ne_nil, hvs, hvalue]

end Number

namespace Text

variable {cs s t : List Char} {a b : String}

/-! ### One character -/

/-- The character of a numbered escape, read behind its mark, and what follows it. -/
def readNumberedEscape (cs : List Char) : Option (Char × List Char) :=
  match cutAt '\x7d' cs with
  | ('\x7b' :: ds, some rest) => (Number.readBased 16 ds).map fun n => (Char.ofNat n, rest)
  | _ => none

/-- The character that the front of a text names where it stands between quotes, and what follows it. -/
def readQuotedChar : List Char → Option (Char × List Char)
  | '\\' :: '0' :: cs => some ('\x00', cs)
  | '\\' :: 't' :: cs => some ('\t', cs)
  | '\\' :: 'n' :: cs => some ('\n', cs)
  | '\\' :: 'r' :: cs => some ('\r', cs)
  | '\\' :: 'u' :: cs => readNumberedEscape cs
  | '\\' :: c :: cs => some (c, cs)
  | c :: cs => some (c, cs)
  | [] => none

theorem readNumberedEscape_append (c : Char) (rest : List Char) :
    readNumberedEscape ('\x7b' :: Nat.toDigits 16 c.toNat ++ '\x7d' :: rest) = some (c, rest) := by
  have hend : '\x7d' ∉ '\x7b' :: Nat.toDigits 16 c.toNat := by
    rw [List.mem_cons, not_or]
    refine ⟨by decide, fun hmem => ?_⟩
    obtain ⟨d, hd, heq⟩ := Number.exists_of_mem_toDigits hmem
    have hne : ∀ d < 16, '\x7d' ≠ Nat.digitChar d := by decide
    exact hne d hd heq
  rw [readNumberedEscape, cutAt_append_cons hend]
  simp [Number.readBased_toDigits]

theorem readQuotedChar_append (c : Char) (rest : List Char) :
    readQuotedChar (quotedChar c ++ rest) = some (c, rest) := by
  unfold quotedChar
  split_ifs with hnul htab hfeed hreturn hmark hshown
  · simp [readQuotedChar, hnul]
  · simp [readQuotedChar, htab]
  · simp [readQuotedChar, hfeed]
  · simp [readQuotedChar, hreturn]
  · rcases Bool.or_eq_true_iff.mp hmark with h | h <;> simp [readQuotedChar, of_decide_eq_true h]
  · simpa [numberedEscape, readQuotedChar] using readNumberedEscape_append c rest
  · have hslash : c ≠ '\\' := by
      rintro rfl
      exact hmark rfl
    simp [readQuotedChar, hslash]

theorem quotedChar_append_inj (h : quotedChar c ++ s = quotedChar d ++ t) : c = d ∧ s = t := by
  have hread := congrArg readQuotedChar h
  rw [readQuotedChar_append, readQuotedChar_append] at hread
  exact Prod.mk.inj (Option.some.inj hread)

/-- What is written for a character does not begin with the quote that ends a text. -/
theorem quotedChar_append_ne (c : Char) (s t : List Char) : quotedChar c ++ s ≠ '"' :: t := by
  unfold quotedChar numberedEscape
  split_ifs with hnul htab hfeed hreturn hmark hshown <;> simp
  rintro rfl
  exact absurd rfl hmark

/-! ### Texts -/

/-- What stands between quotes tells a text and where it ends, whatever stands behind it. -/
theorem flatMap_quotedChar_inj {as bs : List Char}
    (h : as.flatMap quotedChar ++ '"' :: s = bs.flatMap quotedChar ++ '"' :: t) : as = bs ∧ s = t := by
  -- Nothing that is written begins with a quote, so a text that ends is told from one that goes on.
  induction as generalizing bs with
  | nil =>
    cases bs with
    | nil => simpa using h
    | cons d bs =>
      rw [List.flatMap_cons, List.append_assoc] at h
      exact absurd h.symm (quotedChar_append_ne d _ s)
  | cons c as ih =>
    cases bs with
    | nil =>
      rw [List.flatMap_cons, List.append_assoc] at h
      exact absurd h (quotedChar_append_ne c _ t)
    | cons d bs =>
      simp only [List.flatMap_cons, List.append_assoc] at h
      obtain ⟨rfl, hrest⟩ := quotedChar_append_inj h
      obtain ⟨rfl, rfl⟩ := ih hrest
      exact ⟨rfl, rfl⟩

theorem toList_quoted (a : String) : (quoted a).toList = '"' :: (a.toList.flatMap quotedChar ++ ['"']) := by
  simp [quoted]

/-! ### Characters that are seen -/

/-- A control, or a separator of lines or paragraphs. -/
def IsControl (c : Char) : Prop :=
  c.toNat ≤ 0x1F ∨ 0x7F ≤ c.toNat ∧ c.toNat ≤ 0x9F ∨ c.toNat = 0x2028 ∨ c.toNat = 0x2029

theorem inRanges_of_mem {ranges : List (Nat × Nat)} {low high : Nat} (h : (low, high) ∈ ranges) (hlow : low ≤ n)
    (hhigh : n ≤ high) : inRanges ranges n = true :=
  List.any_eq_true.mpr ⟨_, h, by simp [hlow, hhigh]⟩

theorem inRanges_unseenRanges (h : IsControl c) : inRanges unseenRanges c.toNat = true := by
  have hlow : (0x0, 0x1F) ∈ unseenRanges := List.mem_cons_self
  have hhigh : (0x7F, 0xA0) ∈ unseenRanges := List.mem_cons_of_mem _ List.mem_cons_self
  have hseparators : (0x2028, 0x202F) ∈ unseenRanges := by decide +kernel
  rcases h with h | ⟨hle, hge⟩ | h | h
  · exact inRanges_of_mem hlow (Nat.zero_le _) h
  · exact inRanges_of_mem hhigh hle (by omega)
  · exact inRanges_of_mem hseparators (by omega) (by omega)
  · exact inRanges_of_mem hseparators (by omega) (by omega)

theorem not_isControl_of_isSeen (h : isSeen c = true) : ¬IsControl c := by
  intro hc
  have hunseen := inRanges_unseenRanges hc
  simp only [isSeen] at h
  split_ifs at h with hascii
  · have hshown : 0x20 ≤ c.toNat := of_decide_eq_true h
    unfold IsControl at hc
    omega
  · simp [hunseen] at h

theorem isSeen_of_mem_quotedChar (h : d ∈ quotedChar c) : isSeen d = true := by
  have hdigits : ∀ n < 16, isSeen (Nat.digitChar n) = true := by decide
  unfold quotedChar at h
  split_ifs at h with hnul htab hfeed hreturn hmark hhidden
  iterate 4
    simp at h
    rcases h with rfl | rfl <;> rfl
  · simp at h
    rcases h with rfl | rfl
    · rfl
    · rcases Bool.or_eq_true_iff.mp hmark with h | h <;> rw [of_decide_eq_true h] <;> rfl
  · simp only [numberedEscape, List.append_assoc, List.mem_append, List.mem_cons, List.not_mem_nil, or_false] at h
    rcases h with (rfl | rfl | rfl) | h | rfl
    iterate 3 rfl
    · obtain ⟨n, hn, rfl⟩ := Number.exists_of_mem_toDigits h
      exact hdigits n hn
    · rfl
  · obtain rfl := List.mem_singleton.mp h
    simp at hhidden
    exact hhidden.2

theorem isSeen_of_mem_quoted (h : c ∈ (quoted a).toList) : isSeen c = true := by
  simp only [toList_quoted, List.mem_cons, List.mem_append, List.mem_flatMap, List.not_mem_nil, or_false] at h
  rcases h with rfl | ⟨d, -, h⟩ | rfl
  · rfl
  · exact isSeen_of_mem_quotedChar h
  · rfl

end Text

end Agenda
