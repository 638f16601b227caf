import Agenda.Http.Percent
import Agenda.Proofs.Text.Utf8

/-!
# Percent-encoded texts read back

An encoded text holds unreserved characters and percent signs only, so it stands in a query without being cut, and it
is read as the text that was encoded (`formDecode_percentEncode`).
-/

namespace Agenda.Http

variable {b n : Nat} {c : Char} {s : String}

/-! ### Characters of an encoded text -/

/-- A character that an encoded text can hold. -/
def IsEncoded (c : Char) : Prop :=
  isUnreserved c.toNat = true ∨ c = '%'

theorem IsEncoded.ne {d : Char} (h : IsEncoded c) (hd : isUnreserved d.toNat = false ∧ d ≠ '%') : c ≠ d := by
  rintro rfl
  rcases h with h | h
  · rw [hd.1] at h
    cases h
  · exact hd.2 h

theorem toNat_ofNat_of_isUnreserved (h : isUnreserved n = true) : (Char.ofNat n).toNat = n := by
  have hn : n < 0x80 := by
    simp only [isUnreserved, Bool.or_eq_true, Bool.and_eq_true, decide_eq_true_eq, beq_iff_eq] at h
    omega
  rw [Char.toNat_ofNat, if_pos (Or.inl (by omega))]

theorem isUnreserved_upperHex : ∀ n < 16, isUnreserved (upperHex n).toNat = true := by decide

theorem hexValue?_upperHex : ∀ n < 16, Number.hexValue? (upperHex n) = some n := by decide

theorem isEncoded_of_mem_percentEncodeByte (hb : b < 256) (h : c ∈ percentEncodeByte b) : IsEncoded c := by
  unfold percentEncodeByte at h
  split at h
  · rename_i hfree
    obtain rfl := List.mem_singleton.mp h
    exact Or.inl (by rw [toNat_ofNat_of_isUnreserved hfree]; exact hfree)
  · simp only [List.mem_cons, List.not_mem_nil, or_false] at h
    rcases h with rfl | rfl | rfl
    · exact Or.inr rfl
    · exact Or.inl (isUnreserved_upperHex _ (by omega))
    · exact Or.inl (isUnreserved_upperHex _ (by omega))

theorem isEncoded_of_mem (h : c ∈ percentEncode s) : IsEncoded c := by
  obtain ⟨b, hb, hc⟩ := List.mem_flatMap.mp h
  exact isEncoded_of_mem_percentEncodeByte (Text.Utf8.lt_of_mem_encode hb) hc

theorem IsEncoded.toNat_lt (h : IsEncoded c) : 0x20 < c.toNat ∧ c.toNat < 0x80 := by
  rcases h with h | rfl
  · simp only [isUnreserved, Bool.or_eq_true, Bool.and_eq_true, decide_eq_true_eq, beq_iff_eq] at h
    omega
  · decide

/-! ### Reading -/

theorem percentBytes_cons_of_ne (acc bs : List Nat) (h : b ≠ 0x25) :
    percentBytes acc (b :: bs) = percentBytes (b :: acc) bs := by
  rw [percentBytes.eq_def]
  split
  · rename_i heq
    cases heq
  · rename_i heq
    cases heq
    exact absurd rfl h
  · rename_i heq
    cases heq
    rfl

theorem percentBytes_of_notMem (acc : List Nat) {bs : List Nat} (h : 0x25 ∉ bs) :
    percentBytes acc bs = acc.reverse ++ bs := by
  induction bs generalizing acc with
  | nil => rw [percentBytes, List.append_nil]
  | cons b bs ih =>
    rw [List.mem_cons, not_or] at h
    rw [percentBytes_cons_of_ne acc bs (Ne.symm h.1), ih _ h.2, List.reverse_cons, List.append_assoc]
    rfl

theorem percentBytes_encodeByte (acc bs : List Nat) (hb : b < 256) :
    percentBytes acc ((percentEncodeByte b).map Char.toNat ++ bs) = percentBytes (b :: acc) bs := by
  unfold percentEncodeByte
  split
  · rename_i hfree
    have hne : b ≠ 0x25 := by
      rintro rfl
      cases hfree
    rw [List.map_singleton, toNat_ofNat_of_isUnreserved hfree]
    exact percentBytes_cons_of_ne acc bs hne
  · have hhigh := hexValue?_upperHex (b / 16) (by omega)
    have hlow := hexValue?_upperHex (b % 16) (by omega)
    show percentBytes acc (0x25 :: (upperHex (b / 16)).toNat :: (upperHex (b % 16)).toNat :: bs) = _
    rw [percentBytes, Char.ofNat_toNat, Char.ofNat_toNat, hhigh, hlow]
    simp only
    rw [show b / 16 * 16 + b % 16 = b by omega]

theorem percentBytes_encode (acc : List Nat) {bytes : List Nat} (h : ∀ b ∈ bytes, b < 256) :
    percentBytes acc ((bytes.flatMap percentEncodeByte).map Char.toNat) = acc.reverse ++ bytes := by
  induction bytes generalizing acc with
  | nil => simp [percentBytes]
  | cons b bytes ih =>
    obtain ⟨hb, hbytes⟩ := List.forall_mem_cons.mp h
    rw [List.flatMap_cons, List.map_append, percentBytes_encodeByte acc _ hb, ih _ hbytes, List.reverse_cons,
      List.append_assoc]
    rfl

theorem percentDecode_percentEncode (s : String) : percentDecode (percentEncode s) = s.toList := by
  have hascii : ∀ c ∈ percentEncode s, c.toNat < 0x80 := fun c hc => (isEncoded_of_mem hc).toNat_lt.2
  unfold percentDecode
  rw [Text.Utf8.encode_of_ascii hascii]
  unfold percentEncode
  rw [percentBytes_encode [] fun b => Text.Utf8.lt_of_mem_encode]
  exact Text.Utf8.decode_encode s.toList

/-- A text without percent signs is its own encoding. -/
theorem percentDecode_of_notMem {cs : List Char} (hascii : ∀ c ∈ cs, c.toNat < 0x80) (h : '%' ∉ cs) :
    percentDecode cs = cs := by
  have hbytes : 0x25 ∉ cs.map Char.toNat := by
    intro hmem
    obtain ⟨c, hc, heq⟩ := List.mem_map.mp hmem
    rw [Char.toNat_inj.mp (heq.trans (show 0x25 = '%'.toNat from rfl))] at hc
    exact h hc
  have hencode := Text.Utf8.encode_of_ascii hascii
  unfold percentDecode
  rw [hencode, percentBytes_of_notMem [] hbytes, List.reverse_nil, List.nil_append, ← hencode]
  exact Text.Utf8.decode_encode cs

theorem formDecode_percentEncode (s : String) : formDecode (percentEncode s) = s := by
  have hplus : (percentEncode s).map (fun c => if c = '+' then ' ' else c) = percentEncode s := by
    conv_rhs => rw [← List.map_id (percentEncode s)]
    refine List.map_congr_left fun c hc => if_neg ?_
    exact (isEncoded_of_mem hc).ne ⟨by decide, by decide⟩
  unfold formDecode
  rw [hplus, percentDecode_percentEncode, String.ofList_toList]

end Agenda.Http
