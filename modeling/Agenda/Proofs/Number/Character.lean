import Agenda.Number.Float
import Agenda.Proofs.Number.Decimal
import Agenda.Proofs.Text.Blank

/-!
# The characters of numbers

Numbers that are written out show something. A text that reads as an integer or a float has no other characters than
those of numbers (`isNumberChar`), unless it is one of the words for an infinite float or none.
-/

namespace Agenda

namespace Number

/-! ### Numbers show something -/

theorem isBlank_of_isDigit {c : Char} (h : c.isDigit = true) : Text.isBlank c = false := by
  obtain ⟨hlow, hhigh⟩ := Char.isDigit_iff_toNat.mp h
  have h0 : '0'.toNat = 48 := rfl
  have h9 : '9'.toNat = 57 := rfl
  rw [Bool.eq_false_iff]
  intro hblank
  simp only [Text.isBlank, Bool.or_eq_true, Bool.and_eq_true, decide_eq_true_eq, beq_iff_eq] at hblank
  omega

theorem exists_isDigit_natText (n : Nat) : ∃ c ∈ natText n, c.isDigit = true := by
  obtain ⟨c, hc⟩ := List.exists_mem_of_ne_nil _ (natText_ne_nil n)
  exact ⟨c, hc, isDigit_of_mem_natText hc⟩

theorem exists_isDigit_intText (i : Int) : ∃ c ∈ intText i, c.isDigit = true := by
  obtain ⟨c, hc, hd⟩ := exists_isDigit_natText i.natAbs
  unfold intText
  split
  · exact ⟨c, List.mem_cons_of_mem _ hc, hd⟩
  · exact ⟨c, hc, hd⟩

theorem Binary64.exists_not_blank_positional (d : Nat) (e : Int) : ∃ c ∈ positional d e, Text.isBlank c = false := by
  unfold positional
  dsimp only
  split
  · obtain ⟨c, hc, hd⟩ := exists_isDigit_natText d
    exact ⟨c, List.mem_append_left _ hc, isBlank_of_isDigit hd⟩
  · exact ⟨'.', List.mem_append_right _ List.mem_cons_self, rfl⟩

theorem Binary64.exists_not_blank_text (x : Binary64) : ∃ c ∈ x.text, Text.isBlank c = false := by
  cases x with
  | finite negative m p =>
    unfold text
    dsimp only
    split
    · exact ⟨'0', List.mem_append_right _ List.mem_cons_self, rfl⟩
    · obtain ⟨c, hc, hblank⟩ := exists_not_blank_positional (shortest m p).1 (shortest m p).2
      exact ⟨c, List.mem_append_right _ hc, hblank⟩
  | infinite negative => exact ⟨'i', by cases negative <;> decide, rfl⟩
  | nan => exact ⟨'N', by decide, rfl⟩

/-! ### Characters of numbers -/

/-- The characters that numbers are written with, words like `inf` apart. -/
def isNumberChar (c : Char) : Bool :=
  c.isDigit || c = '+' || c = '-' || c = '.' || c = 'e' || c = 'E'

variable {c : Char} {cs ds : List Char}

theorem isNumberChar_of_isDigit (h : c.isDigit = true) : isNumberChar c = true := by
  simp [isNumberChar, h]

theorem isNumberChar_of_readInt {i : Int} (h : readInt cs = some i) : ∀ c ∈ cs, isNumberChar c = true := by
  have hdigits : ∀ {ds : List Char}, (∀ c ∈ ds, c.isDigit = true) → ∀ c ∈ ds, isNumberChar c = true :=
    fun hds c hc => isNumberChar_of_isDigit (hds c hc)
  cases readInt_eq_some_iff.mp h with
  | plain hne hds => exact hdigits hds
  | plus hne hds => exact List.forall_mem_cons.mpr ⟨rfl, hdigits hds⟩
  | minus hne hds => exact List.forall_mem_cons.mpr ⟨rfl, hdigits hds⟩

theorem isNumberChar_of_readWord {i : Int} (h : readWord cs = some i) : ∀ c ∈ cs, isNumberChar c = true :=
  isNumberChar_of_readInt (Option.filter_eq_some_iff.mp h).1

theorem readTrailingExponent_cons (c : Char) (cs : List Char) :
    readTrailingExponent (c :: cs) = if c = 'e' || c = 'E' then readInt cs else none :=
  rfl

theorem isNumberChar_of_readTrailingExponent {e : Int} (h : readTrailingExponent cs = some e) :
    ∀ c ∈ cs, isNumberChar c = true := by
  cases cs with
  | nil => exact fun c hc => absurd hc List.not_mem_nil
  | cons c cs =>
    rw [readTrailingExponent_cons] at h
    split at h
    · rename_i hmark
      have hc : isNumberChar c = true := by
        rcases Bool.or_eq_true_iff.mp hmark with hc | hc
        · rw [of_decide_eq_true hc]
          rfl
        · rw [of_decide_eq_true hc]
          rfl
      exact List.forall_mem_cons.mpr ⟨hc, isNumberChar_of_readInt h⟩
    · cases h

theorem isNumberChar_of_mem_takeWhile (h : c ∈ cs.takeWhile Char.isDigit) : isNumberChar c = true :=
  isNumberChar_of_isDigit (List.mem_takeWhile_imp h)

/-- Characters are those of numbers if those behind the leading digits are. -/
theorem isNumberChar_of_dropWhile (h : ∀ c ∈ cs.dropWhile Char.isDigit, isNumberChar c = true) :
    ∀ c ∈ cs, isNumberChar c = true := by
  intro c hc
  rw [← List.takeWhile_append_dropWhile (p := Char.isDigit) (l := cs)] at hc
  rcases List.mem_append.mp hc with hc | hc
  · exact isNumberChar_of_mem_takeWhile hc
  · exact h c hc

theorem isNumberChar_of_readMagnitude {negative : Bool} {x : Binary64} (h : readMagnitude negative cs = some x) :
    ∀ c ∈ cs, isNumberChar c = true := by
  refine isNumberChar_of_dropWhile ?_
  unfold readMagnitude at h
  dsimp only at h
  split at h
  all_goals
    split at h
    · cases h
    obtain ⟨e, he, -⟩ := Option.map_eq_some_iff.mp h
  · rename_i rest hrest _
    rw [hrest]
    exact List.forall_mem_cons.mpr ⟨rfl, isNumberChar_of_dropWhile (isNumberChar_of_readTrailingExponent he)⟩
  · exact isNumberChar_of_readTrailingExponent he

theorem readUnsignedFloat_cases {negative : Bool} {x : Binary64} (h : readUnsignedFloat negative cs = some x) :
    String.ofList (cs.map Char.toLower) ∈ ["inf", "infinity", "nan"] ∨ ∀ c ∈ cs, isNumberChar c = true := by
  unfold readUnsignedFloat at h
  dsimp only at h
  split at h
  · rename_i hinf
    rw [Bool.or_eq_true, decide_eq_true_eq, decide_eq_true_eq] at hinf
    simp only [List.mem_cons]
    tauto
  · split at h
    · rename_i hnan
      rw [hnan]
      exact Or.inl (by decide)
    · exact Or.inr (isNumberChar_of_readMagnitude h)

/-- What reads as a float is one of three words with or without a sign, in any case, or has the characters of numbers
alone. -/
theorem readFloat_cases {x : Binary64} (h : readFloat cs = some x) :
    (∃ sign ∈ ["", "+", "-"], ∃ word ∈ ["inf", "infinity", "nan"],
      String.ofList (cs.map Char.toLower) = sign ++ word) ∨ ∀ c ∈ cs, isNumberChar c = true := by
  unfold readFloat at h
  split at h
  · rename_i cs
    rcases readUnsignedFloat_cases h with hword | hall
    · exact Or.inl ⟨"-", by decide, _, hword, @String.ofList_append ['-'] _⟩
    · exact Or.inr (List.forall_mem_cons.mpr ⟨rfl, hall⟩)
  · rename_i cs
    rcases readUnsignedFloat_cases h with hword | hall
    · exact Or.inl ⟨"+", by decide, _, hword, @String.ofList_append ['+'] _⟩
    · exact Or.inr (List.forall_mem_cons.mpr ⟨rfl, hall⟩)
  · rcases readUnsignedFloat_cases h with hword | hall
    · exact Or.inl ⟨"", by decide, _, hword, (String.empty_append).symm⟩
    · exact Or.inr hall

end Number

end Agenda
