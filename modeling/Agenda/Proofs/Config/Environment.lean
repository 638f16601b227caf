import Agenda.Config.Environment
import Agenda.Proofs.Number.Character

/-!
# Variables read and written out

The text of a variable is read as a truth value or a number where it can be, and a setting that is a text gets that
written out again. This is the text of the variable itself unless it was another spelling (`toText?_value_iff`), as
ordinary texts are not (`Ordinary.plain`).
-/

namespace Agenda.Config.Environment

variable {v t : String}

/-- What a text is read as: a truth value first, then an integer, then a float. -/
theorem value_cases (v : String) :
    (v.map Char.toLower = "true" ∧ value v = .bool true) ∨
    (v.map Char.toLower = "false" ∧ value v = .bool false) ∨
    (v.map Char.toLower ≠ "true" ∧ v.map Char.toLower ≠ "false") ∧
      ((∃ i, Number.readWord v.toList = some i ∧ value v = .int i) ∨
        Number.readWord v.toList = none ∧
          ((∃ x, Number.readFloat v.toList = some x ∧ value v = .float x) ∨
            Number.readFloat v.toList = none ∧ value v = .text v)) := by
  unfold value
  dsimp only
  split
  · rename_i htrue
    exact Or.inl ⟨htrue, rfl⟩
  · rename_i htrue
    split
    · rename_i hfalse
      exact Or.inr (Or.inl ⟨hfalse, rfl⟩)
    · rename_i hfalse
      refine Or.inr (Or.inr ⟨⟨htrue, hfalse⟩, ?_⟩)
      split
      · rename_i i hi
        exact Or.inl ⟨i, hi, rfl⟩
      · rename_i hno
        refine Or.inr ⟨hno, ?_⟩
        split
        · rename_i x hx
          exact Or.inl ⟨x, hx, rfl⟩
        · rename_i hnone
          exact Or.inr ⟨hnone, rfl⟩

/-! ### Texts that stay as they are -/

/-- The text is the one that what it is read as is written out as. -/
structure Plain (v : String) : Prop where
  truth : v.map Char.toLower = "true" ∨ v.map Char.toLower = "false" → v.map Char.toLower = v
  int : ∀ i, Number.readWord v.toList = some i → Number.intText i = v.toList
  float : ∀ x, Number.readWord v.toList = none → Number.readFloat v.toList = some x → x.text = v.toList

theorem plain_of_no_number (htruth : v.map Char.toLower = "true" ∨ v.map Char.toLower = "false" → v.map Char.toLower = v)
    (hnone : Number.readWord v.toList = none) (hnofloat : Number.readFloat v.toList = none) : Plain v where
  truth := htruth
  int i hi := by
    rw [hnone] at hi
    cases hi
  float x _ hx := by
    rw [hnofloat] at hx
    cases hx

theorem toText?_value_iff : (value v).toText? = some v ↔ Plain v := by
  have hspelled : ∀ cs : List Char, some (String.ofList cs) = some v ↔ cs = v.toList := fun cs => by
    rw [Option.some.injEq, ← String.toList_inj, String.toList_ofList]
  rcases value_cases v with ⟨hlow, hv⟩ | ⟨hlow, hv⟩ | ⟨hno, hnumber⟩
  · rw [hv]
    constructor
    · intro h
      obtain rfl : "true" = v := Option.some.inj h
      exact plain_of_no_number (fun _ => hlow) (by decide) (by decide)
    · intro h
      exact congrArg some (hlow.symm.trans (h.truth (Or.inl hlow)))
  · rw [hv]
    constructor
    · intro h
      obtain rfl : "false" = v := Option.some.inj h
      exact plain_of_no_number (fun _ => hlow) (by decide) (by decide)
    · intro h
      exact congrArg some (hlow.symm.trans (h.truth (Or.inr hlow)))
  · have htruth : v.map Char.toLower = "true" ∨ v.map Char.toLower = "false" → v.map Char.toLower = v :=
      fun h => absurd h (not_or.mpr hno)
    rcases hnumber with ⟨i, hi, hv⟩ | ⟨hnone, ⟨x, hx, hv⟩ | ⟨hnofloat, hv⟩⟩
    · rw [hv]
      refine (hspelled _).trans ⟨fun h => ⟨htruth, fun j hj => ?_, fun x hnone => ?_⟩, fun h => h.int i hi⟩
      · rw [Option.some.inj (hj.symm.trans hi), h]
      · rw [hi] at hnone
        cases hnone
    · rw [hv]
      refine (hspelled _).trans ⟨fun h => ⟨htruth, fun j hj => ?_, fun y _ hy => ?_⟩, fun h => h.float x hnone hx⟩
      · rw [hnone] at hj
        cases hj
      · rw [Option.some.inj (hy.symm.trans hx), h]
    · rw [hv]
      exact ⟨fun _ => plain_of_no_number htruth hnone hnofloat, fun _ => rfl⟩

/-- The text holds a character that numbers do not have, and is none of the words that read as truth values and floats,
with or without a sign. -/
structure Ordinary (v : String) : Prop where
  mark : ∃ c ∈ v.toList, Number.isNumberChar c = false
  noWord : ∀ sign ∈ ["", "+", "-"], ∀ word ∈ ["true", "false", "inf", "infinity", "nan"],
    v.map Char.toLower ≠ sign ++ word

theorem Ordinary.value_eq (h : Ordinary v) : value v = .text v := by
  obtain ⟨c, hc, hmark⟩ := h.mark
  have hnumber : ¬∀ c ∈ v.toList, Number.isNumberChar c = true := fun hall =>
    absurd (hall c hc) (Bool.eq_false_iff.mp hmark)
  rcases value_cases v with ⟨hlow, -⟩ | ⟨hlow, -⟩ | ⟨-, ⟨i, hi, -⟩ | ⟨-, ⟨x, hx, -⟩ | ⟨-, hv⟩⟩⟩
  · exact absurd hlow (h.noWord "" (by decide) "true" (by decide))
  · exact absurd hlow (h.noWord "" (by decide) "false" (by decide))
  · exact absurd (Number.isNumberChar_of_readWord hi) hnumber
  · rcases Number.readFloat_cases hx with ⟨sign, hsign, word, hword, hlow⟩ | hall
    · have hmap : v.map Char.toLower = String.ofList (v.toList.map Char.toLower) := by
        rw [← String.toList_inj, String.toList_map, String.toList_ofList]
      have hmem := List.mem_cons_of_mem "true" (List.mem_cons_of_mem "false" hword)
      exact absurd (hmap.trans hlow) (h.noWord sign hsign word hmem)
    · exact absurd hall hnumber
  · exact hv

theorem Ordinary.plain (h : Ordinary v) : Plain v :=
  toText?_value_iff.mp (by rw [h.value_eq]; rfl)

/-! ### Texts and numbers that are read back -/

/-- Every text is read as something that can be written out; a text that shows something is not written out blank. -/
theorem exists_toText?_value (v : String) :
    ∃ t, (value v).toText? = some t ∧ (Text.isBlankText v = false → Text.isBlankText t = false) := by
  have hshow : ∀ cs : List Char, (∃ c ∈ cs, Text.isBlank c = false) → Text.isBlankText (String.ofList cs) = false := by
    rintro cs ⟨c, hc, hblank⟩
    unfold Text.isBlankText
    rw [String.toList_ofList, List.all_eq_false]
    exact ⟨c, hc, Bool.eq_false_iff.mp hblank⟩
  rcases value_cases v with ⟨-, hv⟩ | ⟨-, hv⟩ | ⟨-, ⟨i, -, hv⟩ | ⟨-, ⟨x, -, hv⟩ | ⟨-, hv⟩⟩⟩
  · exact ⟨"true", by rw [hv]; rfl, fun _ => by decide⟩
  · exact ⟨"false", by rw [hv]; rfl, fun _ => by decide⟩
  · obtain ⟨c, hc, hd⟩ := Number.exists_isDigit_intText i
    exact ⟨_, by rw [hv]; rfl, fun _ => hshow _ ⟨c, hc, Number.isBlank_of_isDigit hd⟩⟩
  · exact ⟨_, by rw [hv]; rfl, fun _ => hshow _ x.exists_not_blank_text⟩
  · exact ⟨v, by rw [hv]; rfl, id⟩

/-- The digits of a number are read as that number. -/
theorem value_natText {n : Nat} (h : n < 2 ^ 63) : value (String.ofList (Number.natText n)) = .int n := by
  obtain ⟨c, hc, hd⟩ := Number.exists_isDigit_natText n
  have hword : ∀ word : String, (∀ c ∈ word.toList, c.isDigit = false) →
      (String.ofList (Number.natText n)).map Char.toLower ≠ word := by
    rintro word hletters rfl
    have hlower : c.toLower = c := Char.toLower_eq_of_not_isUpper (by grind [Char.isDigit, Char.isUpper])
    have hmem : c ∈ ((String.ofList (Number.natText n)).map Char.toLower).toList := by
      rw [String.toList_map, String.toList_ofList]
      exact List.mem_map.mpr ⟨c, hc, hlower⟩
    rw [hletters c hmem] at hd
    cases hd
  rcases value_cases (String.ofList (Number.natText n)) with ⟨hlow, -⟩ | ⟨hlow, -⟩ | ⟨-, ⟨i, hi, hv⟩ | ⟨hnone, -⟩⟩
  · exact absurd hlow (hword "true" (by simp))
  · exact absurd hlow (hword "false" (by simp))
  · rw [String.toList_ofList, Number.readWord_natText h] at hi
    rw [hv, Option.some.inj hi]
  · rw [String.toList_ofList, Number.readWord_natText h] at hnone
    cases hnone

end Agenda.Config.Environment
