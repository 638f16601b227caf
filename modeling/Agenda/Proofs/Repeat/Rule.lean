import Agenda.Repeat.Rule
import Agenda.Proofs.Calendar.Anniversary
import Agenda.Proofs.Calendar.Ordinal
import Agenda.Proofs.Number.Decimal

/-!
# Rules that a text can name, and their steps

A text names the daily rules of 1 to 400 days and the yearly rule (`readable_iff_exists_parse`). A step of such a
rule always leads to a later date, so the dates of its steps (`stepped`) increase until they leave the calendar.
-/

namespace Agenda

namespace Rule

variable {rule : Rule} {a b d : Date} {j k : Nat}

/-! ### Readable rules -/

/-- The rules that a text can name. -/
def Readable : Rule → Prop
  | daily step => 1 ≤ step ∧ step ≤ longestStep
  | yearly => True

/-- The step that a word names decides. -/
theorem parseStep_of_readWord {text : String} {word : List Char} {v : Int} (h : Number.readWord word = some v) :
    parseStep text word = if 1 ≤ v ∧ v ≤ 400 then .ok (.daily v.toNat) else .error (.stepOutOfRange v) := by
  have hrange : (1 ≤ v && v ≤ longestStep) = true ↔ 1 ≤ v ∧ v ≤ 400 := by
    rw [Bool.and_eq_true, decide_eq_true_eq, decide_eq_true_eq]
    rfl
  unfold parseStep
  rw [h]
  exact if_congr hrange rfl rfl

theorem readable_of_parseStep {text : String} {word : List Char} (h : parseStep text word = .ok rule) :
    rule.Readable := by
  cases hv : Number.readWord word with
  | none =>
    rw [parseStep, hv] at h
    cases h
  | some v =>
    rw [parseStep_of_readWord hv] at h
    split at h
    · cases h
      simp only [Readable, longestStep]
      omega
    · cases h

theorem readable_of_parse {text : String} (h : parse text = .ok rule) : rule.Readable := by
  unfold parse at h
  split at h
  · cases h
  · split at h
    · cases h
    · exact readable_of_parseStep h
    · cases h
      trivial
    · cases h
      trivial
    · cases h
    · cases h
    · cases h

theorem parse_of_pieces {text : String} {word : List Char} (hne : text ≠ "")
    (h : Text.pieces ' ' text.toList = [['d'], word]) : parse text = parseStep text word := by
  unfold parse
  rw [if_neg hne, h]
  rfl

theorem pieces_twoWords {c : Char} {word : List Char} (hc : c ≠ ' ') (hword : ' ' ∉ word) :
    Text.pieces ' ' (c :: ' ' :: word) = [[c], word] := by
  have hletter : ' ' ∉ [c] := fun h => hc (List.mem_singleton.mp h).symm
  show Text.pieces ' ' ([c] ++ ' ' :: word) = _
  rw [Text.pieces_append_cons hletter, Text.pieces_of_not_mem hword]

theorem parse_text (h : rule.Readable) : parse rule.text = .ok rule := by
  cases rule with
  | yearly => decide
  | daily step =>
    obtain ⟨hpos, hle⟩ := h
    unfold longestStep at hle
    have hspace : ' ' ∉ Number.natText step := fun hmem =>
      absurd (Number.isDigit_of_mem_natText hmem) (by decide)
    have hpieces : Text.pieces ' ' (text (daily step)).toList = [['d'], Number.natText step] := by
      rw [text, String.toList_ofList]
      exact pieces_twoWords (by decide) hspace
    rw [parse_of_pieces (by simp [text]) hpieces, parseStep_of_readWord (Number.readWord_natText (by omega))]
    exact if_pos (by omega)

/-- The readable rules are those that some text names. -/
theorem readable_iff_exists_parse : rule.Readable ↔ ∃ text, parse text = .ok rule :=
  ⟨fun h => ⟨rule.text, parse_text h⟩, fun ⟨_, h⟩ => readable_of_parse h⟩

/-! ### Steps -/

/-- The date that so many steps of the rule lead to, unless they lead past the year 9999. -/
def stepped (rule : Rule) (date : Date) : Nat → Option Date
  | 0 => some date
  | k + 1 => (stepped rule date k).bind rule.advance

theorem lt_of_advance (h : rule.Readable) (hadv : rule.advance d = some a) : d < a := by
  cases rule with
  | daily step => exact Date.lt_of_addDays h.1 hadv
  | yearly => exact Date.lt_of_nextYear hadv

theorem stepped_one (rule : Rule) (d : Date) : rule.stepped d 1 = rule.advance d := rfl

theorem stepped_add (rule : Rule) (d : Date) (j k : Nat) :
    rule.stepped d (j + k) = (rule.stepped d j).bind fun x => rule.stepped x k := by
  induction k with
  | zero => simp [stepped]
  | succ k ih =>
    rw [← Nat.add_assoc]
    simp only [stepped]
    rw [ih, Option.bind_assoc]

theorem stepped_succ (hadv : rule.advance d = some a) (k : Nat) : rule.stepped d (k + 1) = rule.stepped a k := by
  rw [Nat.add_comm, stepped_add, stepped_one, hadv, Option.bind_some]

theorem stepped_succ_of_end (hadv : rule.advance d = none) (k : Nat) : rule.stepped d (k + 1) = none := by
  rw [Nat.add_comm, stepped_add, stepped_one, hadv, Option.bind_none]

theorem le_of_stepped (h : rule.Readable) (hk : rule.stepped d k = some a) : d ≤ a := by
  induction k generalizing a with
  | zero =>
    cases hk
    exact le_refl d
  | succ k ih =>
    obtain ⟨x, hx, hadv⟩ := Option.bind_eq_some_iff.mp hk
    exact le_trans (ih hx) (le_of_lt (lt_of_advance h hadv))

theorem lt_of_stepped (h : rule.Readable) (hpos : 1 ≤ k) (hk : rule.stepped d k = some a) : d < a := by
  obtain ⟨k, rfl⟩ := Nat.exists_eq_add_of_le' hpos
  obtain ⟨x, hx, hadv⟩ := Option.bind_eq_some_iff.mp hk
  exact lt_of_le_of_lt (le_of_stepped h hx) (lt_of_advance h hadv)

/-- The dates of the steps increase. -/
theorem stepped_lt_stepped (h : rule.Readable) (hjk : j < k) (hj : rule.stepped d j = some a)
    (hk : rule.stepped d k = some b) : a < b := by
  obtain ⟨i, rfl⟩ := Nat.exists_eq_add_of_lt hjk
  rw [Nat.add_assoc, stepped_add, hj, Option.bind_some] at hk
  exact lt_of_stepped h (Nat.le_add_left 1 i) hk

theorem stepped_le_stepped (h : rule.Readable) (hjk : j ≤ k) (hj : rule.stepped d j = some a)
    (hk : rule.stepped d k = some b) : a ≤ b := by
  rcases Nat.eq_or_lt_of_le hjk with rfl | hlt
  · rw [hj] at hk
    cases hk
    exact le_refl a
  · exact le_of_lt (stepped_lt_stepped h hlt hj hk)

end Rule

end Agenda
