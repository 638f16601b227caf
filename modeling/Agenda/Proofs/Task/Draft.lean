import Agenda.Task.Draft
import Agenda.Proofs.Repeat.NextDate
import Agenda.Proofs.Text.Blank

/-!
# Entries that a draft can make

A draft that settles makes a sound entry (`Entry.Sound`): its date and its rule can be read again and its title is
not blank. The date it gets has not passed.
-/

namespace Agenda

/-- The date can be read, the title shows something, and there is either no rule or a readable one. -/
structure Entry.Sound (e : Entry) : Prop where
  date : ∃ d, Date.parse e.date = .ok d
  title : Text.trim e.title ≠ ""
  repeats : e.repeats = "" ∨ ∃ rule, Rule.parse e.repeats = .ok rule

namespace Draft

variable {draft : Draft} {today date due : Date} {rule : Option Rule} {e : Entry}

theorem givenRule_eq_ok (h : draft.givenRule = .ok rule) :
    draft.repeats = "" ∧ rule = none ∨ ∃ r, Rule.parse draft.repeats = .ok r ∧ rule = some r := by
  unfold givenRule at h
  split at h
  · rename_i hnone
    cases h
    exact Or.inl ⟨hnone, rfl⟩
  · cases hr : Rule.parse draft.repeats with
    | error e =>
      rw [hr] at h
      cases h
    | ok r =>
      rw [hr] at h
      cases h
      exact Or.inr ⟨r, rfl, rfl⟩

theorem readable_of_givenRule (h : draft.givenRule = .ok rule) : ∀ r, rule = some r → r.Readable := by
  rintro r rfl
  rcases givenRule_eq_ok h with ⟨-, hnone⟩ | ⟨r', hr', hsome⟩
  · cases hnone
  · cases hsome
    exact Rule.readable_of_parse hr'

theorem le_of_firstDue (hr : ∀ r, rule = some r → r.Readable) (h : firstDue today date rule = .ok due) :
    today ≤ due := by
  unfold firstDue at h
  split at h
  · rename_i hle
    cases h
    exact hle
  · cases rule with
    | none =>
      cases h
      exact le_refl today
    | some r =>
      obtain ⟨k, hk⟩ := (Schedule.nextDate_eq_ok_iff (hr r rfl)).mp h
      exact le_of_lt hk.past

theorem dueDate_eq_ok (h : draft.dueDate today = .ok due) :
    ∃ date rule, draft.givenDate today = .ok date ∧ draft.givenRule = .ok rule ∧ firstDue today date rule = .ok due := by
  unfold dueDate at h
  obtain ⟨date, hdate, hrest⟩ := Except.bind_eq_ok_iff.mp h
  obtain ⟨rule, hrule, hfirst⟩ := Except.bind_eq_ok_iff.mp hrest
  exact ⟨date, rule, hdate, hrule, hfirst⟩

theorem settle_eq_ok (h : draft.settle today = .ok e) :
    Text.isBlankText draft.title = false ∧ ∃ due, draft.dueDate today = .ok due ∧
      e = { date := due.text, title := draft.title, comment := draft.comment, repeats := draft.repeats } := by
  unfold settle at h
  split at h
  · cases h
  · rename_i hblank
    cases hdue : draft.dueDate today with
    | error e =>
      rw [hdue] at h
      cases h
    | ok due =>
      rw [hdue] at h
      cases h
      exact ⟨Bool.eq_false_iff.mpr hblank, due, rfl, rfl⟩

theorem settle_ne_notFound (draft : Draft) (today : Date) (what : String) :
    draft.settle today ≠ .error (.notFound what) := by
  unfold settle
  intro h
  split at h
  · cases h
  · split at h
    · cases h
    · cases h

/-- A draft settles on a date that has not passed. -/
theorem le_of_settle (h : draft.settle today = .ok e) : ∃ due, Date.parse e.date = .ok due ∧ today ≤ due := by
  obtain ⟨-, due, hdue, rfl⟩ := settle_eq_ok h
  obtain ⟨date, rule, -, hrule, hfirst⟩ := dueDate_eq_ok hdue
  exact ⟨due, Date.parse_text due, le_of_firstDue (readable_of_givenRule hrule) hfirst⟩

theorem sound_of_settle (h : draft.settle today = .ok e) : e.Sound := by
  obtain ⟨hblank, due, hdue, rfl⟩ := settle_eq_ok h
  obtain ⟨date, rule, -, hrule, -⟩ := dueDate_eq_ok hdue
  refine ⟨⟨due, Date.parse_text due⟩, fun hempty => ?_, ?_⟩
  · rw [Text.trim_eq_empty_iff.mp hempty] at hblank
    cases hblank
  · rcases givenRule_eq_ok hrule with ⟨hnone, -⟩ | ⟨r, hr, -⟩
    · exact Or.inl hnone
    · exact Or.inr ⟨r, hr⟩

/-- A draft is refused for its title, or for its date, its rule or what they lead to. -/
theorem settle_eq_error {cause : TaskError} (h : draft.settle today = .error cause) :
    (∃ why, cause = .invalid why) ∨ ∃ e, cause = .rule e := by
  unfold settle at h
  split at h
  · cases h
    exact Or.inl ⟨_, rfl⟩
  · split at h
    · cases h
      exact Or.inr ⟨_, rfl⟩
    · cases h

theorem givenDate_of_given (hgiven : draft.date ≠ "") (today : Date) : draft.givenDate today = Date.parse draft.date :=
  if_neg hgiven

theorem givenDate_of_parse (h : Date.parse draft.date = .ok date) : draft.givenDate today = .ok date := by
  have hne : draft.date ≠ "" := by
    intro hempty
    rw [hempty] at h
    cases h
  rw [givenDate_of_given hne, h]

/-- A date that has passed moves to where a completion today would move it. -/
theorem settle_of_past (htitle : Text.isBlankText draft.title = false) (hdate : Date.parse draft.date = .ok date)
    (hpast : date < today) (hrepeats : draft.repeats ≠ "") :
    draft.settle today =
      match nextDateText today draft.date draft.repeats with
      | .error e => .error (.rule e)
      | .ok due => .ok { date := due, title := draft.title, comment := draft.comment, repeats := draft.repeats } := by
  have hgiven : draft.givenDate today = .ok date := givenDate_of_parse hdate
  have hdue : (draft.dueDate today).map Date.text = nextDateText today draft.date draft.repeats := by
    cases hrule : Rule.parse draft.repeats with
    | error e =>
      have hno : draft.givenRule = .error e := by
        unfold givenRule
        rw [if_neg hrepeats, hrule]
      unfold dueDate nextDateText Schedule.parse
      rw [hgiven, hno, hdate, hrule]
      rfl
    | ok rule =>
      have hsome : draft.givenRule = .ok (some rule) := by
        unfold givenRule
        rw [if_neg hrepeats, hrule]
      rw [nextDateText_of_parse hdate hrule]
      unfold dueDate
      rw [hgiven, hsome]
      show (firstDue today date (some rule)).map Date.text = _
      unfold firstDue
      rw [if_neg (not_le.mpr hpast)]
  unfold settle
  rw [if_neg (Bool.eq_false_iff.mp htitle), ← hdue]
  cases draft.dueDate today <;> rfl

end Draft

/-- The draft that asks for the fields of an entry as they are. -/
def Entry.draft (e : Entry) : Draft where
  date := e.date
  title := e.title
  comment := e.comment
  repeats := e.repeats

/-- A sound entry whose date has not passed is what its own fields settle on. -/
theorem Entry.Sound.settle_draft {e : Entry} {today date : Date} (h : e.Sound) (hdate : Date.parse e.date = .ok date)
    (hle : today ≤ date) : e.draft.settle today = .ok e := by
  have htitle : ¬Text.isBlankText e.title = true := fun hblank => h.title (Text.trim_eq_empty_iff.mpr hblank)
  have hrule : ∃ rule, e.draft.givenRule = .ok rule := by
    unfold Draft.givenRule
    rcases h.repeats with hnone | ⟨rule, hrule⟩
    · exact ⟨none, if_pos hnone⟩
    · refine ⟨if e.repeats = "" then none else some rule, ?_⟩
      simp only [Entry.draft, hrule]
      split_ifs <;> rfl
  obtain ⟨rule, hrule⟩ := hrule
  have hdue : e.draft.dueDate today = .ok date := by
    unfold Draft.dueDate
    rw [hrule, Draft.givenDate_of_parse hdate]
    exact if_pos hle
  unfold Draft.settle
  rw [hdue]
  simp only [Entry.draft, if_neg htitle, Date.text_of_parse hdate]

end Agenda
