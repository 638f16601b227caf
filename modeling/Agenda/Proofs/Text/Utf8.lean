import Agenda.Text.Utf8
import Mathlib

/-!
# Bytes of a text read back

Reading bytes takes them apart in the bytes of characters and bytes that are skipped (`scans_scan`). So bytes are read as
a text without anything skipped just if they are the bytes of that text (`scan_eq_map_some_iff`), which are the ones that
the text is stored in (`bytes_eq_encode`).
-/

namespace Agenda.Text.Utf8

variable {a b c d : Nat} {bs : List Nat} {cs : List Char} {us : List (Option Char)}

/-! ### One character -/

theorem scan_one (bs : List Nat) (h : a < 0x80) : scan (a :: bs) = some (Char.ofNat a) :: scan bs := by
  rw [scan.eq_def]
  simp only [if_pos h]

theorem scan_two (bs : List Nat) (ha : 0x80 ≤ a) (hb : isSecond a b = true) (h : a < 0xE0) :
    scan (a :: b :: bs) = some (Char.ofNat ((a - 0xC0) * 0x40 + (b - 0x80))) :: scan bs := by
  rw [scan.eq_def]
  simp only [if_neg (Nat.not_lt.mpr ha), hb, Bool.not_true, Bool.false_eq_true, if_false, if_pos h]

theorem scan_three (bs : List Nat) (ha : 0xE0 ≤ a) (hb : isSecond a b = true) (hc : isTail c = true) (h : a < 0xF0) :
    scan (a :: b :: c :: bs) =
      some (Char.ofNat ((a - 0xE0) * 0x1000 + (b - 0x80) * 0x40 + (c - 0x80))) :: scan bs := by
  rw [scan.eq_def]
  simp only [if_neg (show ¬a < 0x80 by omega), hb, hc, Bool.not_true, Bool.false_eq_true, if_false,
    if_neg (Nat.not_lt.mpr ha), if_pos h]

theorem scan_four (bs : List Nat) (ha : 0xF0 ≤ a) (hb : isSecond a b = true) (hc : isTail c = true)
    (hd : isTail d = true) :
    scan (a :: b :: c :: d :: bs) =
      some (Char.ofNat ((a - 0xF0) * 0x40000 + (b - 0x80) * 0x1000 + (c - 0x80) * 0x40 + (d - 0x80))) :: scan bs := by
  rw [scan.eq_def]
  simp only [if_neg (show ¬a < 0x80 by omega), hb, hc, hd, Bool.not_true, Bool.false_eq_true, if_false,
    if_neg (show ¬a < 0xE0 by omega), if_neg (Nat.not_lt.mpr ha)]

theorem isTail_iff : isTail b = true ↔ 0x80 ≤ b ∧ b < 0xC0 := by
  unfold isTail
  rw [Bool.and_eq_true, decide_eq_true_eq, decide_eq_true_eq]

theorem isTail_of_lt (h : b < 0x40) : isTail (0x80 + b) = true :=
  isTail_iff.mpr (by omega)

/-- The second byte of a character: the four first bytes with a bound of their own, and all others. -/
theorem isSecond_iff : isSecond a b = true ↔
    (a = 0xE0 ∧ 0xA0 ≤ b ∨ a = 0xED ∧ b < 0xA0 ∨ a = 0xF0 ∧ 0x90 ≤ b ∨ a = 0xF4 ∧ b < 0x90 ∨
      a ≠ 0xE0 ∧ a ≠ 0xED ∧ a ≠ 0xF0 ∧ 0xC2 ≤ a ∧ a < 0xF4) ∧ 0x80 ≤ b ∧ b < 0xC0 := by
  unfold isSecond isTail
  split_ifs <;> simp <;> omega

theorem toNat_range (c : Char) : c.toNat < 0xD800 ∨ 0xDFFF < c.toNat ∧ c.toNat < 0x110000 := c.valid

theorem scan_encodeChar (c : Char) (bs : List Nat) : scan (encodeChar c ++ bs) = some c :: scan bs := by
  have hrange := toNat_range c
  have hread : ∀ {n : Nat}, n = c.toNat → some (Char.ofNat n) :: scan bs = some c :: scan bs := by
    rintro _ rfl
    rw [Char.ofNat_toNat]
  unfold encodeChar
  generalize c.toNat = n at hrange hread ⊢
  simp only
  -- One case for each number of bytes; the numbers of surrogates are those that have no second byte.
  split_ifs with h₁ h₂ h₃
  · exact (scan_one bs h₁).trans (hread rfl)
  · have hb : isSecond (0xC0 + n / 0x40) (0x80 + n % 0x40) = true := isSecond_iff.mpr (by omega)
    exact (scan_two bs (by omega) hb (by omega)).trans (hread (by omega))
  · have hb : isSecond (0xE0 + n / 0x1000) (0x80 + n / 0x40 % 0x40) = true := isSecond_iff.mpr (by omega)
    have hc := isTail_of_lt (Nat.mod_lt n (show 0 < 0x40 by omega))
    exact (scan_three bs (by omega) hb hc (by omega)).trans (hread (by omega))
  · have hb : isSecond (0xF0 + n / 0x40000) (0x80 + n / 0x1000 % 0x40) = true := isSecond_iff.mpr (by omega)
    have hc := isTail_of_lt (Nat.mod_lt (n / 0x40) (show 0 < 0x40 by omega))
    have hd := isTail_of_lt (Nat.mod_lt n (show 0 < 0x40 by omega))
    exact (scan_four bs (by omega) hb hc hd).trans (hread (by omega))

/-! ### Texts -/

theorem scan_encode (cs : List Char) : scan (encode cs) = cs.map some := by
  induction cs with
  | nil => rfl
  | cons c cs ih =>
    have htail : encode (c :: cs) = encodeChar c ++ encode cs := rfl
    rw [htail, scan_encodeChar, ih]
    rfl

theorem decode_encode (cs : List Char) : decode (encode cs) = cs := by
  unfold decode
  rw [scan_encode, List.map_map]
  exact List.map_id cs

theorem encodeChar_eq (c : Char) : (String.utf8EncodeChar c).map UInt8.toNat = encodeChar c := by
  have hrange := toNat_range c
  have hval : c.val.toNat = c.toNat := rfl
  unfold String.utf8EncodeChar encodeChar
  simp only [hval]
  generalize c.toNat = n at hrange
  split_ifs <;> simp <;> omega

theorem bytes_eq_encode (s : String) : s.toUTF8.data.toList.map UInt8.toNat = encode s.toList := by
  have hbytes : s.toUTF8 = s.toList.utf8Encode := by
    conv_lhs => rw [← String.ofList_toList (s := s)]
    exact String.toByteArray_ofList
  rw [hbytes, List.utf8Encode, List.toList_data_toByteArray, List.map_flatMap]
  exact List.flatMap_congr fun c _ => encodeChar_eq c

theorem encode_of_ascii {cs : List Char} (h : ∀ c ∈ cs, c.toNat < 0x80) : encode cs = cs.map Char.toNat := by
  induction cs with
  | nil => rfl
  | cons c cs ih =>
    obtain ⟨hc, hcs⟩ := List.forall_mem_cons.mp h
    have hone : encodeChar c = [c.toNat] := by
      unfold encodeChar
      exact if_pos hc
    have htail : encode (c :: cs) = encodeChar c ++ encode cs := rfl
    rw [htail, hone, ih hcs]
    rfl

/-- Texts of ASCII characters come in the order of their bytes. -/
theorem encode_lt_encode_of_ascii {cs ds : List Char} (hcs : ∀ c ∈ cs, c.toNat < 0x80)
    (hds : ∀ c ∈ ds, c.toNat < 0x80) : encode cs < encode ds ↔ cs < ds := by
  rw [encode_of_ascii hcs, encode_of_ascii hds]
  clear hcs hds
  induction cs generalizing ds with
  | nil => cases ds <;> simp
  | cons c cs ih =>
    cases ds with
    | nil => simp
    | cons d ds =>
      rw [List.map_cons, List.map_cons, List.cons_lt_cons_iff, List.cons_lt_cons_iff, ih, Char.toNat_inj]
      rfl

theorem lt_of_mem_encode {cs : List Char} {n : Nat} (h : n ∈ encode cs) : n < 256 := by
  obtain ⟨c, -, hn⟩ := List.mem_flatMap.mp h
  have hrange := toNat_range c
  unfold encodeChar at hn
  generalize c.toNat = m at hrange hn
  simp only at hn
  split_ifs at hn <;> simp only [List.mem_cons, List.not_mem_nil, or_false] at hn <;> omega

/-! ### Any bytes -/

theorem toNat_ofNat_of_range {n : Nat} (h : n < 0xD800 ∨ 0xDFFF < n ∧ n < 0x110000) : (Char.ofNat n).toNat = n := by
  rw [Char.toNat_ofNat, if_pos h]

theorem encodeChar_one (h : a < 0x80) : encodeChar (Char.ofNat a) = [a] := by
  unfold encodeChar
  rw [toNat_ofNat_of_range (by omega)]
  exact if_pos h

theorem encodeChar_two (ha : 0x80 ≤ a) (hb : isSecond a b = true) (h : a < 0xE0) :
    encodeChar (Char.ofNat ((a - 0xC0) * 0x40 + (b - 0x80))) = [a, b] := by
  have hb := isSecond_iff.mp hb
  unfold encodeChar
  rw [toNat_ofNat_of_range (by omega)]
  simp only
  rw [if_neg (by omega), if_pos (by omega)]
  simp only [List.cons.injEq, and_true]
  omega

theorem encodeChar_three (ha : 0xE0 ≤ a) (hb : isSecond a b = true) (hc : isTail c = true) (h : a < 0xF0) :
    encodeChar (Char.ofNat ((a - 0xE0) * 0x1000 + (b - 0x80) * 0x40 + (c - 0x80))) = [a, b, c] := by
  have hb := isSecond_iff.mp hb
  have hc := isTail_iff.mp hc
  unfold encodeChar
  rw [toNat_ofNat_of_range (by omega)]
  simp only
  rw [if_neg (by omega), if_neg (by omega), if_pos (by omega)]
  simp only [List.cons.injEq, and_true]
  omega

theorem encodeChar_four (ha : 0xF0 ≤ a) (hb : isSecond a b = true) (hc : isTail c = true) (hd : isTail d = true) :
    encodeChar (Char.ofNat ((a - 0xF0) * 0x40000 + (b - 0x80) * 0x1000 + (c - 0x80) * 0x40 + (d - 0x80))) =
      [a, b, c, d] := by
  have hb := isSecond_iff.mp hb
  have hc := isTail_iff.mp hc
  have hd := isTail_iff.mp hd
  unfold encodeChar
  rw [toNat_ofNat_of_range (by omega)]
  simp only
  rw [if_neg (by omega), if_neg (by omega), if_neg (by omega)]
  simp only [List.cons.injEq, and_true]
  omega

/-- Bytes taken apart: the bytes of characters, and bytes that are skipped. -/
inductive Scans : List Nat → List (Option Char) → Prop where
  | done : Scans [] []
  | char (c : Char) {bs : List Nat} {us : List (Option Char)} (h : Scans bs us) :
      Scans (encodeChar c ++ bs) (some c :: us)
  | skipped {lost bs : List Nat} {us : List (Option Char)} (hne : lost ≠ []) (h : Scans bs us) :
      Scans (lost ++ bs) (none :: us)

theorem encode_of_scans (h : Scans bs (cs.map some)) : encode cs = bs := by
  generalize hus : cs.map some = us at h
  induction h generalizing cs with
  | done =>
    rw [List.map_eq_nil_iff.mp hus]
    rfl
  | char c _ ih =>
    obtain ⟨d, ds, rfl, hc, hds⟩ := List.map_eq_cons_iff.mp hus
    cases hc
    rw [← ih hds]
    rfl
  | skipped => simp [List.map_eq_cons_iff] at hus

theorem mem_of_scans (h : Scans bs us) {x : Char} (hx : some x ∈ us) (hb : b ∈ encodeChar x) : b ∈ bs := by
  induction h with
  | done => cases hx
  | char c _ ih =>
    rcases List.mem_cons.mp hx with hx | hx
    · cases hx
      exact List.mem_append_left _ hb
    · exact List.mem_append_right _ (ih hx)
  | skipped _ _ ih =>
    rcases List.mem_cons.mp hx with hx | hx
    · cases hx
    · exact List.mem_append_right _ (ih hx)

theorem Scans.of_encodeChar {x : Char} {bytes : List Nat} (hx : encodeChar x = bytes) (h : Scans bs us) :
    Scans (bytes ++ bs) (some x :: us) :=
  hx ▸ h.char x

theorem scans_scan (bs : List Nat) : Scans bs (scan bs) := by
  fun_induction scan bs with
  | case1 => exact .done
  | case2 a bs ha ih => exact .of_encodeChar (encodeChar_one ha) ih
  | case3 a ha => exact .skipped (List.cons_ne_nil a []) .done
  | case4 a ha b bs hb ih => exact ih.skipped (List.cons_ne_nil a [])
  | case5 a ha b bs hb h ih => exact .of_encodeChar (encodeChar_two (by omega) (by simpa using hb) h) ih
  | case6 a ha b hb h => exact .skipped (List.cons_ne_nil a [b]) .done
  | case7 a ha b hb h c bs hc ih => exact ih.skipped (List.cons_ne_nil a [b])
  | case8 a ha b hb h c bs hc h' ih =>
    exact .of_encodeChar (encodeChar_three (by omega) (by simpa using hb) (by simpa using hc) h') ih
  | case9 a ha b hb h c hc h' => exact .skipped (List.cons_ne_nil a [b, c]) .done
  | case10 a ha b hb h c hc h' d bs hd ih => exact ih.skipped (List.cons_ne_nil a [b, c])
  | case11 a ha b hb h c hc h' d bs hd ih =>
    exact .of_encodeChar (encodeChar_four (by omega) (by simpa using hb) (by simpa using hc) (by simpa using hd)) ih

/-- Nothing is skipped just if the bytes are those of a text. -/
theorem scan_eq_map_some_iff : scan bs = cs.map some ↔ encode cs = bs := by
  constructor
  · intro h
    exact encode_of_scans (h ▸ scans_scan bs)
  · rintro rfl
    exact scan_encode cs

/-- Bytes are taken apart at every ASCII character, which goes on with no other. -/
theorem scan_append (hb : b < 0x80) (bs rest : List Nat) :
    scan (bs ++ b :: rest) = scan bs ++ some (Char.ofNat b) :: scan rest := by
  have hsecond : ∀ a, isSecond a b = false := fun a => by
    rw [Bool.eq_false_iff, ne_eq, isSecond_iff]
    omega
  have htail : isTail b = false := by
    rw [Bool.eq_false_iff, ne_eq, isTail_iff]
    omega
  fun_induction scan bs with
  | case1 => exact scan_one rest hb
  | case2 a bs ha ih => rw [List.cons_append, scan_one _ ha, ih, List.cons_append]
  | case3 a ha =>
    rw [List.singleton_append, scan.eq_def]
    simp [ha, hsecond, scan_one _ hb]
  | case4 a ha b' bs hb' ih =>
    rw [scan.eq_def]
    simpa [ha, by simpa using hb'] using ih
  | case5 a ha b' bs hb' h ih =>
    simp only [List.cons_append]
    rw [scan_two _ (by omega) (by simpa using hb') h, ih]
  | case6 a ha b' hb' h =>
    rw [scan.eq_def]
    simp [ha, h, by simpa using hb', htail, scan_one _ hb]
  | case7 a ha b' hb' h c bs hc ih =>
    rw [scan.eq_def]
    simpa [ha, h, by simpa using hb', by simpa using hc] using ih
  | case8 a ha b' hb' h c bs hc h' ih =>
    simp only [List.cons_append]
    rw [scan_three _ (by omega) (by simpa using hb') (by simpa using hc) h', ih]
  | case9 a ha b' hb' h c hc h' =>
    rw [scan.eq_def]
    simp [ha, h, h', by simpa using hb', by simpa using hc, htail, scan_one _ hb]
  | case10 a ha b' hb' h c hc h' d bs hd ih =>
    rw [scan.eq_def]
    simpa [ha, h, h', by simpa using hb', by simpa using hc, by simpa using hd] using ih
  | case11 a ha b' hb' h c hc h' d bs hd ih =>
    simp only [List.cons_append]
    rw [scan_four _ (by omega) (by simpa using hb') (by simpa using hc) (by simpa using hd), ih]

end Agenda.Text.Utf8
