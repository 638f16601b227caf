import Agenda.Number.Decimal
import Mathlib

/-!
# Written numbers read back

A number that is written in decimal digits, with or without leading zeros, is read back as itself.
-/

namespace Agenda.Number

/-! ### Digits -/

theorem isDigit_of_mem_natText {n : Nat} {c : Char} (h : c ∈ natText n) : c.isDigit = true :=
  Nat.isDigit_of_mem_toDigits (by omega) (by omega) h

theorem natText_ne_nil (n : Nat) : natText n ≠ [] := Nat.toDigits_ne_nil

theorem ofDigits_natText (n : Nat) : ofDigits (natText n) = n := Nat.ofDigitChars_ten_toDigits

theorem readDigits_eq_some_iff {ds : List Char} {n : Nat} :
    readDigits ds = some n ↔ ds ≠ [] ∧ (∀ c ∈ ds, c.isDigit = true) ∧ ofDigits ds = n := by
  unfold readDigits
  split
  · rename_i h
    simp only [Bool.and_eq_true, decide_eq_true_eq, List.all_eq_true] at h
    constructor
    · intro hn
      exact ⟨h.1, h.2, Option.some.inj hn⟩
    · rintro ⟨-, -, rfl⟩
      rfl
  · rename_i h
    simp only [Bool.and_eq_true, decide_eq_true_eq, List.all_eq_true] at h
    constructor
    · intro hnone
      cases hnone
    · rintro ⟨hne, hds, -⟩
      exact absurd ⟨hne, hds⟩ h

@[simp] theorem readDigits_natText (n : Nat) : readDigits (natText n) = some n :=
  readDigits_eq_some_iff.mpr ⟨natText_ne_nil n, fun _ => isDigit_of_mem_natText, ofDigits_natText n⟩

/-! ### Leading zeros -/

theorem padded_eq (width n : Nat) :
    padded width n = List.replicate (width - (natText n).length) '0' ++ natText n := rfl

theorem isDigit_of_mem_padded {width n : Nat} {c : Char} (h : c ∈ padded width n) : c.isDigit = true := by
  rw [padded_eq, List.mem_append] at h
  rcases h with h | h
  · rw [List.eq_of_mem_replicate h]
    rfl
  · exact isDigit_of_mem_natText h

theorem ofDigits_padded (width n : Nat) : ofDigits (padded width n) = n := by
  unfold ofDigits
  rw [padded_eq, Nat.ofDigitChars_append, Nat.ofDigitChars_replicate_zero, Nat.mul_zero]
  exact ofDigits_natText n

@[simp] theorem readDigits_padded (width n : Nat) : readDigits (padded width n) = some n := by
  refine readDigits_eq_some_iff.mpr ⟨?_, fun _ => isDigit_of_mem_padded, ofDigits_padded width n⟩
  rw [padded_eq]
  exact List.append_ne_nil_of_right_ne_nil _ (natText_ne_nil n)

theorem length_padded {width n : Nat} (hpos : 0 < width) (h : n < 10 ^ width) : (padded width n).length = width := by
  have hle : (natText n).length ≤ width := (Nat.length_toDigits_le_iff (by omega) hpos).mpr h
  rw [padded_eq, List.length_append, List.length_replicate]
  omega

/-! ### Order -/

section Order

variable {c : Char} {ds es : List Char} {n : Nat}

theorem ofDigitChars_eq (ds : List Char) (n : Nat) :
    Nat.ofDigitChars 10 ds n = 10 ^ ds.length * n + ofDigits ds := by
  induction ds generalizing n with
  | nil => simp [ofDigits]
  | cons d ds ih =>
    unfold ofDigits
    rw [Nat.ofDigitChars_cons, Nat.ofDigitChars_cons, ih, ih (10 * 0 + _), List.length_cons, Nat.pow_succ]
    ring

theorem ofDigits_append (ds es : List Char) : ofDigits (ds ++ es) = 10 ^ es.length * ofDigits ds + ofDigits es := by
  rw [ofDigits, Nat.ofDigitChars_append, ofDigitChars_eq]
  rfl

theorem ofDigits_cons (c : Char) (ds : List Char) :
    ofDigits (c :: ds) = 10 ^ ds.length * (c.toNat - '0'.toNat) + ofDigits ds := by
  rw [ofDigits, Nat.ofDigitChars_cons, ofDigitChars_eq, Nat.mul_zero, Nat.zero_add]

theorem ofDigits_lt (h : ∀ c ∈ ds, c.isDigit = true) : ofDigits ds < 10 ^ ds.length := by
  induction ds with
  | nil => simp [ofDigits]
  | cons c ds ih =>
    obtain ⟨hc, hds⟩ := List.forall_mem_cons.mp h
    have hle : c.toNat - '0'.toNat ≤ 9 := by
      have := (Char.isDigit_iff_toNat.mp hc).2
      have h9 : '9'.toNat = '0'.toNat + 9 := rfl
      omega
    have hmul := Nat.mul_le_mul_left (10 ^ ds.length) hle
    have := ih hds
    rw [ofDigits_cons, List.length_cons, Nat.pow_succ]
    omega

/-- The leading digit decides, and only then what follows it. -/
theorem mul_add_lt_mul_add_iff {p x y u v : Nat} (hu : u < p) (hv : v < p) :
    p * x + u < p * y + v ↔ x < y ∨ x = y ∧ u < v := by
  have hlead : ∀ {x y u : Nat} (v : Nat), u < p → x < y → p * x + u < p * y + v := by
    intro x y u v hu hxy
    have := Nat.mul_le_mul_left p (Nat.succ_le_of_lt hxy)
    rw [Nat.mul_succ] at this
    omega
  rcases lt_trichotomy x y with hxy | rfl | hyx
  · exact ⟨fun _ => Or.inl hxy, fun _ => hlead v hu hxy⟩
  · simp
  · have := hlead u hv hyx
    constructor <;> omega

/-- Of two digit sequences of one length, the smaller number comes first in the order of texts. -/
theorem lt_iff_ofDigits_lt (hds : ∀ c ∈ ds, c.isDigit = true) (hes : ∀ c ∈ es, c.isDigit = true)
    (hlen : ds.length = es.length) : ds < es ↔ ofDigits ds < ofDigits es := by
  induction ds generalizing es with
  | nil =>
    obtain rfl := List.length_eq_zero_iff.mp hlen.symm
    simp
  | cons c ds ih =>
    obtain ⟨d, es, rfl⟩ := List.exists_cons_of_length_eq_add_one hlen.symm
    obtain ⟨hc, hds⟩ := List.forall_mem_cons.mp hds
    obtain ⟨hd, hes⟩ := List.forall_mem_cons.mp hes
    have hlen : ds.length = es.length := Nat.succ.inj hlen
    have hc := (Char.isDigit_iff_toNat.mp hc).1
    have hd := (Char.isDigit_iff_toNat.mp hd).1
    have hlt : c < d ↔ c.toNat - '0'.toNat < d.toNat - '0'.toNat := by
      show c.toNat < d.toNat ↔ _
      omega
    have heq : c = d ↔ c.toNat - '0'.toNat = d.toNat - '0'.toNat := by
      rw [← Char.toNat_inj]
      omega
    rw [List.cons_lt_cons_iff, ih hds hes hlen, hlt, heq, ofDigits_cons, ofDigits_cons, hlen,
      mul_add_lt_mul_add_iff (hlen ▸ ofDigits_lt hds) (ofDigits_lt hes)]

theorem eq_of_ofDigits_eq (hds : ∀ c ∈ ds, c.isDigit = true) (hes : ∀ c ∈ es, c.isDigit = true)
    (hlen : ds.length = es.length) (h : ofDigits ds = ofDigits es) : ds = es := by
  rcases lt_trichotomy ds es with hlt | heq | hgt
  · exact absurd h (Nat.ne_of_lt ((lt_iff_ofDigits_lt hds hes hlen).mp hlt))
  · exact heq
  · exact absurd h.symm (Nat.ne_of_lt ((lt_iff_ofDigits_lt hes hds hlen.symm).mp hgt))

/-- Digits are the ones that their number is written in, in the same width. -/
theorem padded_ofDigits {width : Nat} (hlen : ds.length = width) (hpos : 0 < width)
    (hds : ∀ c ∈ ds, c.isDigit = true) : padded width (ofDigits ds) = ds := by
  subst hlen
  refine eq_of_ofDigits_eq (fun _ => isDigit_of_mem_padded) hds ?_ (ofDigits_padded _ _)
  exact length_padded hpos (ofDigits_lt hds)

theorem padded_of_readDigits (h : readDigits ds = some n) : padded ds.length n = ds := by
  obtain ⟨hne, hds, rfl⟩ := readDigits_eq_some_iff.mp h
  exact padded_ofDigits rfl (List.length_pos_iff.mpr hne) hds

end Order

/-! ### Signs -/

theorem readInt_of_isDigit {ds : List Char} (h : ∀ c ∈ ds, c.isDigit = true) :
    readInt ds = (readDigits ds).map fun n => (n : Int) := by
  unfold readInt
  split
  · exact absurd (h '-' List.mem_cons_self) (by decide)
  · exact absurd (h '+' List.mem_cons_self) (by decide)
  · rfl

/-- The integers that fit a word are those from the least one, `-2 ^ 63`, up to `2 ^ 63 - 1`. -/
theorem fitsWord_iff {i : Int} : fitsWord i = true ↔ -2 ^ 63 ≤ i ∧ i ≤ 2 ^ 63 - 1 := by
  unfold fitsWord
  simp only [Bool.and_eq_true, decide_eq_true_eq]
  omega

theorem readWord_natText {n : Nat} (h : n < 2 ^ 63) : readWord (natText n) = some (n : Int) := by
  unfold readWord
  rw [readInt_of_isDigit fun _ => isDigit_of_mem_natText, readDigits_natText]
  have hfits : fitsWord n = true := fitsWord_iff.mpr (by omega)
  simp [hfits]

/-- The text is one or more digits, with one sign or none in front of them, and names the integer. -/
inductive Spells : List Char → Int → Prop
  | plain {ds : List Char} (hne : ds ≠ []) (hds : ∀ c ∈ ds, c.isDigit = true) : Spells ds (ofDigits ds)
  | plus {ds : List Char} (hne : ds ≠ []) (hds : ∀ c ∈ ds, c.isDigit = true) : Spells ('+' :: ds) (ofDigits ds)
  | minus {ds : List Char} (hne : ds ≠ []) (hds : ∀ c ∈ ds, c.isDigit = true) : Spells ('-' :: ds) (-(ofDigits ds))

theorem Spells.space_notMem {cs : List Char} {i : Int} (h : Spells cs i) : ' ' ∉ cs := by
  have hdigits : ∀ {ds : List Char}, (∀ c ∈ ds, c.isDigit = true) → ' ' ∉ ds :=
    fun hds hmem => absurd (hds ' ' hmem) (by decide)
  cases h with
  | plain hne hds => exact hdigits hds
  | plus hne hds => exact mt List.mem_cons.mp (not_or.mpr ⟨by decide, hdigits hds⟩)
  | minus hne hds => exact mt List.mem_cons.mp (not_or.mpr ⟨by decide, hdigits hds⟩)

theorem Spells.readInt_eq {cs : List Char} {i : Int} (h : Spells cs i) : readInt cs = some i := by
  cases h with
  | plain hne hds =>
    rw [readInt_of_isDigit hds, readDigits_eq_some_iff.mpr ⟨hne, hds, rfl⟩]
    rfl
  | plus hne hds =>
    simp only [readInt, readDigits_eq_some_iff.mpr ⟨hne, hds, rfl⟩]
    rfl
  | minus hne hds =>
    simp only [readInt, readDigits_eq_some_iff.mpr ⟨hne, hds, rfl⟩]
    rfl

theorem readInt_eq_some_iff {cs : List Char} {i : Int} : readInt cs = some i ↔ Spells cs i := by
  refine ⟨fun h => ?_, Spells.readInt_eq⟩
  unfold readInt at h
  split at h
  all_goals
    obtain ⟨j, hj, rfl⟩ := Option.map_eq_some_iff.mp h
    obtain ⟨n, hn, heq⟩ := Option.bind_eq_some_iff.mp hj
    obtain ⟨hne, hds, rfl⟩ := readDigits_eq_some_iff.mp hn
    cases heq
  · exact .minus hne hds
  · exact .plus hne hds
  · exact .plain hne hds

theorem readWord_eq_some_iff {cs : List Char} {i : Int} : readWord cs = some i ↔ Spells cs i ∧ fitsWord i = true := by
  rw [readWord, Option.filter_eq_some_iff, readInt_eq_some_iff]

theorem readWord_eq_none_iff {cs : List Char} :
    readWord cs = none ↔ ∀ i, Spells cs i → fitsWord i = false := by
  rw [Option.eq_none_iff_forall_ne_some]
  refine forall_congr' fun i => ?_
  rw [Ne, readWord_eq_some_iff, not_and, Bool.not_eq_true]

theorem isDigit_or_minus_of_mem_intText {i : Int} {c : Char} (h : c ∈ intText i) : c.isDigit = true ∨ c = '-' := by
  unfold intText at h
  split at h
  · rcases List.mem_cons.mp h with rfl | h
    · exact Or.inr rfl
    · exact Or.inl (isDigit_of_mem_natText h)
  · exact Or.inl (isDigit_of_mem_natText h)

theorem readInt_intText (i : Int) : readInt (intText i) = some i := by
  unfold intText
  split
  · rename_i hneg
    have hvalue : -(i.natAbs : Int) = i := by omega
    unfold readInt
    simp only [readDigits_natText]
    exact congrArg some hvalue
  · rename_i hnonneg
    have hvalue : (i.natAbs : Int) = i := by omega
    rw [readInt_of_isDigit fun _ => isDigit_of_mem_natText, readDigits_natText]
    exact congrArg some hvalue

theorem spells_intText (i : Int) : Spells (intText i) i :=
  readInt_eq_some_iff.mp (readInt_intText i)

end Agenda.Number
