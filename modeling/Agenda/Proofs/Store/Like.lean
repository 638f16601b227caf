import Agenda.Store.Like
import Mathlib

/-!
# The pattern of a needle

No character of a needle has a meaning in the pattern for the texts that contain it: the pattern is the needle's
characters between two runs (`compile_containing`), so it matches just the texts with that piece in them. Where the
needle has a NUL character the pattern ends there, and with it the second run: such a pattern matches the texts that
end with what stands before the NUL.
-/

namespace Agenda.Like

variable {n cs : List Char} {ts acc : List Token} {c : Char}

/-! ### What matches -/

/-- Only the case of ASCII letters is left out. -/
def folded (cs : List Char) : List Char :=
  cs.map Char.toLower

/-- The text, up to its first NUL, has the needle in it; of a needle with a NUL, it ends with the part before. -/
def Contains (text needle : String) : Prop :=
  if '\x00' ∈ needle.toList then folded (beforeNul needle.toList) <:+ folded (beforeNul text.toList)
  else folded needle.toList <:+: folded (beforeNul text.toList)

instance (text needle : String) : Decidable (Contains text needle) :=
  if h : '\x00' ∈ needle.toList then decidable_of_iff _ (iff_of_eq (if_pos h).symm)
  else decidable_of_iff _ (iff_of_eq (if_neg h).symm)

/-- None of the two noncharacters that the matcher takes for another one. -/
def Plain (text : String) : Prop :=
  '\uFFFE' ∉ text.toList ∧ '\uFFFF' ∉ text.toList

instance (text : String) : Decidable (Plain text) :=
  inferInstanceAs (Decidable (_ ∧ _))

theorem mem_of_mem_beforeNul (h : c ∈ beforeNul cs) : c ∈ cs :=
  (List.takeWhile_sublist _).mem h

theorem beforeNul_of_notMem (h : '\x00' ∉ cs) : beforeNul cs = cs := by
  refine List.takeWhile_eq_self_iff.mpr fun c hc => decide_eq_true ?_
  rintro rfl
  exact h hc

theorem key_eq_toLower (hE : c ≠ '\uFFFE') (hF : c ≠ '\uFFFF') : key c = c.toLower := by
  unfold key
  rw [if_neg (by simp [hE, hF])]

theorem map_key_beforeNul {text : String} (h : Plain text) :
    (beforeNul text.toList).map key = folded (beforeNul text.toList) := by
  refine List.map_congr_left fun c hc => key_eq_toLower ?_ ?_
  · rintro rfl
    exact h.1 (mem_of_mem_beforeNul hc)
  · rintro rfl
    exact h.2 (mem_of_mem_beforeNul hc)

/-! ### Fitting a piece -/

theorem someEnd_iff {accepts : List Char → Bool} : someEnd accepts cs = true ↔ ∃ s, s <:+ cs ∧ accepts s = true := by
  induction cs with
  | nil => simp [someEnd]
  | cons c cs ih =>
    unfold someEnd
    rw [Bool.or_eq_true, ih]
    constructor
    · rintro (h | ⟨s, hs, h⟩)
      · exact ⟨c :: cs, List.suffix_refl _, h⟩
      · exact ⟨s, hs.trans (List.suffix_cons c cs), h⟩
    · rintro ⟨s, hs, h⟩
      rcases List.suffix_cons_iff.mp hs with rfl | hs
      · exact Or.inl h
      · exact Or.inr ⟨s, hs, h⟩

/-- Characters that have to be there match as many characters with the same keys. -/
theorem fits_exactly_append : fits (n.map .exactly ++ ts) cs = true ↔
    ∃ a b, cs = a ++ b ∧ a.map key = n.map key ∧ fits ts b = true := by
  induction n generalizing cs with
  | nil =>
    constructor
    · intro h
      exact ⟨[], cs, rfl, rfl, h⟩
    · rintro ⟨a, b, rfl, ha, h⟩
      rw [List.map_eq_nil_iff.mp ha]
      exact h
  | cons t n ih =>
    cases cs with
    | nil =>
      constructor
      · intro h
        cases h
      · rintro ⟨a, b, hab, ha, -⟩
        rw [(List.append_eq_nil_iff.mp hab.symm).1] at ha
        cases ha
    | cons c cs =>
      show (key t == key c && fits (n.map .exactly ++ ts) cs) = true ↔ _
      rw [Bool.and_eq_true, beq_iff_eq, ih]
      constructor
      · rintro ⟨hc, a, b, rfl, ha, h⟩
        exact ⟨c :: a, b, rfl, by rw [List.map_cons, List.map_cons, ha, hc], h⟩
      · rintro ⟨a, b, hab, ha, h⟩
        cases a with
        | nil => cases ha
        | cons d a =>
          cases hab
          rw [List.map_cons, List.map_cons] at ha
          injection ha with hd ha
          exact ⟨hd.symm, a, b, rfl, ha, h⟩

theorem fits_anyRun (cs : List Char) : fits [.anyRun] cs = true :=
  someEnd_iff.mpr ⟨[], List.nil_suffix, rfl⟩

theorem fits_suffix : fits (.anyRun :: n.map .exactly) cs = true ↔ n.map key <:+ cs.map key := by
  have hpiece : ∀ s, fits (n.map .exactly) s = true ↔ s.map key = n.map key := by
    intro s
    rw [← List.append_nil (n.map Token.exactly), fits_exactly_append]
    constructor
    · rintro ⟨a, b, rfl, ha, hb⟩
      rw [List.isEmpty_iff.mp hb, List.append_nil, ha]
    · intro hs
      exact ⟨s, [], (List.append_nil s).symm, hs, rfl⟩
  show someEnd (fits (n.map .exactly)) cs = true ↔ _
  rw [someEnd_iff]
  constructor
  · rintro ⟨s, hs, hfit⟩
    rw [← (hpiece s).mp hfit]
    exact hs.map key
  · rintro ⟨p, hp⟩
    obtain ⟨a, s, rfl, -, hs⟩ := List.map_eq_append_iff.mp hp.symm
    exact ⟨s, List.suffix_append a s, (hpiece s).mpr hs⟩

theorem fits_infix : fits (.anyRun :: (n.map .exactly ++ [.anyRun])) cs = true ↔ n.map key <:+: cs.map key := by
  show someEnd (fits (n.map .exactly ++ [.anyRun])) cs = true ↔ _
  rw [someEnd_iff]
  constructor
  · rintro ⟨s, ⟨p, rfl⟩, hfit⟩
    obtain ⟨a, b, rfl, ha, -⟩ := fits_exactly_append.mp hfit
    rw [← ha, ← List.append_assoc]
    exact (List.infix_append p a b).map key
  · rintro ⟨p, q, hpq⟩
    rw [List.append_assoc] at hpq
    obtain ⟨a, s, rfl, -, hs⟩ := List.map_eq_append_iff.mp hpq.symm
    obtain ⟨m, b, rfl, hm, -⟩ := List.map_eq_append_iff.mp hs
    exact ⟨m ++ b, List.suffix_append a _, fits_exactly_append.mpr ⟨m, b, rfl, hm, fits_anyRun b⟩⟩

/-! ### The pattern -/

theorem escaped_cases (c : Char) :
    (c = '%' ∨ c = '_' ∨ c = escape) ∧ escaped c = [escape, c] ∨
    c ≠ '%' ∧ c ≠ '_' ∧ c ≠ escape ∧ escaped c = [c] := by
  unfold escaped
  split
  · rename_i hc
    simp only [Bool.or_eq_true, decide_eq_true_eq, or_assoc] at hc
    exact Or.inl ⟨hc, rfl⟩
  · rename_i hc
    simp only [Bool.or_eq_true, decide_eq_true_eq, or_assoc, not_or] at hc
    exact Or.inr ⟨hc.1, hc.2.1, hc.2.2, rfl⟩

theorem tokensOnto_cons (h : c ≠ escape) (cs : List Char) :
    tokensOnto acc (c :: cs) = tokensOnto (token c :: acc) cs := by
  rw [tokensOnto]
  · intro hc
    exact absurd hc h
  · intro d rest hc
    exact absurd hc h

/-- Read back, every character of an escaped text has to be there. -/
theorem tokensOnto_escaped (n rest : List Char) (acc : List Token) :
    tokensOnto acc (n.flatMap escaped ++ rest) = tokensOnto ((n.map Token.exactly).reverse ++ acc) rest := by
  induction n generalizing acc with
  | nil => rfl
  | cons c n ih =>
    rw [List.flatMap_cons, List.append_assoc, List.map_cons, List.reverse_cons, List.append_assoc]
    rcases escaped_cases c with ⟨-, hesc⟩ | ⟨hrun, hone, hmark, hesc⟩
    · rw [hesc]
      exact ih (.exactly c :: acc)
    · have htoken : token c = .exactly c := by
        unfold token
        rw [if_neg hrun, if_neg hone]
      rw [hesc]
      show tokensOnto acc (c :: _) = _
      rw [tokensOnto_cons hmark, htoken]
      exact ih (.exactly c :: acc)

/-- A NUL in the needle ends the pattern before its last run. -/
theorem beforeNul_escaped (n : List Char) : beforeNul (n.flatMap escaped ++ ['%']) =
    (beforeNul n).flatMap escaped ++ if '\x00' ∈ n then [] else ['%'] := by
  induction n with
  | nil => rfl
  | cons c n ih =>
    by_cases hc : c = '\x00'
    · subst hc
      rw [if_pos List.mem_cons_self]
      rfl
    · have hcons : beforeNul (c :: n) = c :: beforeNul n := List.takeWhile_cons_of_pos (decide_eq_true hc)
      have hmem : '\x00' ∈ c :: n ↔ '\x00' ∈ n := by simp [Ne.symm hc]
      have hesc : ∀ x ∈ escaped c, x ≠ '\x00' := by
        rcases escaped_cases c with ⟨-, hesc⟩ | ⟨-, -, -, hesc⟩
        · simp [hesc, hc, escape]
        · simp [hesc, hc]
      rw [hcons, List.flatMap_cons, List.flatMap_cons, List.append_assoc, List.append_assoc]
      simp only [hmem]
      rw [← ih]
      exact List.takeWhile_append_of_pos fun x hx => decide_eq_true (hesc x hx)

theorem compile_containing (needle : String) : compile (containing needle) =
    some (.anyRun :: ((beforeNul needle.toList).map .exactly ++ if '\x00' ∈ needle.toList then [] else [.anyRun])) := by
  unfold compile containing
  rw [String.toList_ofList, List.cons_append]
  show tokensOnto [] ('%' :: beforeNul _) = _
  rw [beforeNul_escaped, tokensOnto_cons (by decide), tokensOnto_escaped]
  split
  · simp [tokensOnto, token]
  · simp [tokensOnto, token]

/-- The pattern of a needle matches just the texts that contain the needle. -/
theorem accepts_containing {text needle : String} (htext : Plain text) (hneedle : Plain needle) :
    accepts (compile (containing needle)) text = true ↔ Contains text needle := by
  rw [compile_containing]
  show fits _ _ = true ↔ _
  unfold Contains
  by_cases h : '\x00' ∈ needle.toList
  · rw [if_pos h, if_pos h, List.append_nil, fits_suffix, map_key_beforeNul htext, map_key_beforeNul hneedle]
  · rw [if_neg h, if_neg h, fits_infix, map_key_beforeNul htext, map_key_beforeNul hneedle, beforeNul_of_notMem h]

theorem utf8Len_escaped (c : Char) : String.utf8Len (escaped c) =
    c.utf8Size + ([c].count '%' + [c].count '_' + [c].count escape) := by
  rcases escaped_cases c with ⟨rfl | rfl | rfl, -⟩ | ⟨hrun, hone, hmark, hesc⟩
  · rfl
  · rfl
  · rfl
  · rw [hesc, List.count_singleton, List.count_singleton, List.count_singleton]
    simp [hrun, hone, hmark]

/-- Every character with a meaning in patterns takes one more byte. -/
theorem utf8ByteSize_containing (needle : String) : (containing needle).utf8ByteSize =
    needle.utf8ByteSize + (needle.toList.count '%' + needle.toList.count '_' + needle.toList.count escape) + 2 := by
  have hlen : ∀ n : List Char, String.utf8Len (n.flatMap escaped) =
      String.utf8Len n + (n.count '%' + n.count '_' + n.count escape) := by
    intro n
    induction n with
    | nil => rfl
    | cons c n ih =>
      have hcount : ∀ a, (c :: n).count a = [c].count a + n.count a := fun a => by
        rw [← List.count_append, List.singleton_append]
      rw [List.flatMap_cons, String.utf8Len_append, utf8Len_escaped, ih, String.utf8Len_cons, hcount, hcount, hcount]
      omega
  unfold containing
  rw [String.utf8ByteSize_ofList, String.utf8Len_append, String.utf8Len_cons, hlen, ← String.utf8ByteSize_ofList,
    String.ofList_toList]
  show _ + 1 + 1 = _
  omega

end Agenda.Like
