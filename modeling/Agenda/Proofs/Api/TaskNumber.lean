import Agenda.Api.Server
import Agenda.Proofs.Number.Character

/-!
# Numbers of tasks in requests

Which texts name the number of a task, and what every other text is refused for (`NamesTask`). The server reads the
number as these cases have it, and reads back the number of any task as it shows it, whatever blanks a client puts
around it (`taskNumber_eq_iff_namesTask`).
-/

namespace Agenda.Api

variable {text : Option String} {s written before after : String} {n : Int} {r : Except Failure Int}

/-- What is said where there is no number to read. -/
def numberMissing : Failure :=
  .badRequest "task id is required"

/-- What is said of a text that is not the number of a task. -/
def numberUnreadable (written : String) : Failure :=
  .badRequest ("invalid task id: " ++ Text.quoted written)

/-- The texts and the numbers of tasks that they are read as. -/
inductive NamesTask : Option String → Except Failure Int → Prop
  /-- There is no text. -/
  | absent : NamesTask none (.error numberMissing)
  /-- There is a text, of blanks alone. -/
  | blank {s : String} (hblank : ∀ c ∈ s.toList, Text.isBlank c = true) : NamesTask (some s) (.error numberMissing)
  /-- Between blanks there are digits, with one sign or none, that spell a signed number of 64 bits. -/
  | named {s written : String} {n : Int} (htrims : Text.Trims s.toList written.toList)
      (hspells : Number.Spells written.toList n) (hlow : -2 ^ 63 ≤ n) (hhigh : n ≤ 2 ^ 63 - 1) :
      NamesTask (some s) (.ok n)
  /-- Between blanks there is something else. -/
  | unreadable {s written : String} (htrims : Text.Trims s.toList written.toList) (hshown : written ≠ "")
      (hno : ∀ n, Number.Spells written.toList n → ¬(-2 ^ 63 ≤ n ∧ n ≤ 2 ^ 63 - 1)) :
      NamesTask (some s) (.error (numberUnreadable written))

theorem numberUnreadable_ne (written : String) : numberUnreadable written ≠ numberMissing := by
  intro heq
  have hwhy := congrArg String.toList (Failure.badRequest.inj heq)
  rw [String.toList_append] at hwhy
  exact absurd (congrArg List.head? hwhy) (by simp)

/-! ### Reading -/

/-- What is left between the blanks decides. -/
theorem taskNumber_of_trims (htrims : Text.Trims s.toList written.toList) (hshown : written ≠ "") :
    taskNumber (some s) =
      match Number.readWord written.toList with
      | some n => .ok n
      | none => .error (numberUnreadable written) := by
  unfold taskNumber
  simp only [Option.map_some, Text.trim_eq_iff.mpr htrims, if_neg hshown]
  rfl

theorem taskNumber_of_blank (hblank : ∀ c ∈ s.toList, Text.isBlank c = true) :
    taskNumber (some s) = .error numberMissing := by
  have htrim : Text.trim s = "" := Text.trim_eq_empty_iff_forall.mpr hblank
  unfold taskNumber
  simp only [Option.map_some, htrim, if_true]
  rfl

theorem taskNumber_of_spells (htrims : Text.Trims s.toList written.toList) (hspells : Number.Spells written.toList n)
    (hfits : Number.fitsWord n = true) : taskNumber (some s) = .ok n := by
  have hread := Number.readWord_eq_some_iff.mpr ⟨hspells, hfits⟩
  have hshown : written ≠ "" := by
    rintro rfl
    cases hread
  rw [taskNumber_of_trims htrims hshown, hread]

theorem NamesTask.taskNumber_eq (h : NamesTask text r) : taskNumber text = r := by
  cases h with
  | absent => rfl
  | blank hblank => exact taskNumber_of_blank hblank
  | named htrims hspells hlow hhigh => exact taskNumber_of_spells htrims hspells (Number.fitsWord_iff.mpr ⟨hlow, hhigh⟩)
  | unreadable htrims hshown hno =>
    have hread := Number.readWord_eq_none_iff.mpr fun n hn =>
      Bool.eq_false_iff.mpr (mt Number.fitsWord_iff.mp (hno n hn))
    rw [taskNumber_of_trims htrims hshown, hread]

theorem namesTask_taskNumber (text : Option String) : NamesTask text (taskNumber text) := by
  cases text with
  | none => exact .absent
  | some s =>
    by_cases hblank : ∀ c ∈ s.toList, Text.isBlank c = true
    · rw [taskNumber_of_blank hblank]
      exact .blank hblank
    · have htrims : Text.Trims s.toList (Text.trim s).toList := Text.trim_eq_iff.mp rfl
      have hshown : Text.trim s ≠ "" := mt Text.trim_eq_empty_iff_forall.mp hblank
      rw [taskNumber_of_trims htrims hshown]
      cases hread : Number.readWord (Text.trim s).toList with
      | some n =>
        obtain ⟨hspells, hfits⟩ := Number.readWord_eq_some_iff.mp hread
        obtain ⟨hlow, hhigh⟩ := Number.fitsWord_iff.mp hfits
        exact .named htrims hspells hlow hhigh
      | none =>
        refine .unreadable htrims hshown fun n hn => ?_
        rw [← Number.fitsWord_iff, Number.readWord_eq_none_iff.mp hread n hn]
        exact Bool.false_ne_true

/-- The number is missing just if there is no text or one of blanks alone. -/
theorem taskNumber_eq_missing_iff :
    taskNumber text = .error numberMissing ↔ ∀ s ∈ text, ∀ c ∈ s.toList, Text.isBlank c = true := by
  constructor
  · intro hmissing s hs c hc
    have hnames := namesTask_taskNumber text
    rw [hmissing] at hnames
    generalize hr : (Except.error numberMissing : Except Failure Int) = r at hnames
    cases hnames with
    | absent => cases hs
    | blank hblank =>
      cases hs
      exact hblank c hc
    | named => cases hr
    | unreadable => exact absurd (Except.error.inj hr).symm (numberUnreadable_ne _)
  · intro hblank
    cases text with
    | none => rfl
    | some s => exact taskNumber_of_blank (hblank s rfl)

/-! ### Numbers as they are shown -/

/-- A number as it is shown, with any blanks around it. -/
theorem trims_intText (hbefore : ∀ c ∈ before.toList, Text.isBlank c = true)
    (hafter : ∀ c ∈ after.toList, Text.isBlank c = true) (n : Int) :
    Text.Trims (before ++ String.ofList (Number.intText n) ++ after).toList
      (String.ofList (Number.intText n)).toList := by
  rw [String.toList_append, String.toList_append, String.toList_ofList]
  refine Text.trims_of_not_blank (fun c hc => ?_) hbefore hafter
  rcases Number.isDigit_or_minus_of_mem_intText hc with hdigit | rfl
  · exact Number.isBlank_of_isDigit hdigit
  · rfl

theorem taskNumber_intText (hbefore : ∀ c ∈ before.toList, Text.isBlank c = true)
    (hafter : ∀ c ∈ after.toList, Text.isBlank c = true) (hfits : Number.fitsWord n = true) :
    taskNumber (some (before ++ String.ofList (Number.intText n) ++ after)) = .ok n := by
  refine taskNumber_of_spells (trims_intText hbefore hafter n) ?_ hfits
  rw [String.toList_ofList]
  exact Number.spells_intText n

/-- The number of a task is read from the texts that name one; every other text is refused, as missing if it shows
nothing, and for what it shows if it shows something. The number that clients see of a task is read back, whatever
blanks are put around it. -/
theorem taskNumber_eq_iff_namesTask :
    (∀ text r, taskNumber text = r ↔ NamesTask text r) ∧
    (∀ text, taskNumber text = .error (.badRequest "task id is required") ↔
      ∀ s ∈ text, ∀ c ∈ s.toList, Text.isBlank c = true) ∧
    ∀ (task : Task) (ms : List (Option String × Json.Value)) (before after : String),
      Server.taskValue task = .object ms → -2 ^ 63 ≤ task.id → task.id ≤ 2 ^ 63 - 1 →
      (∀ c ∈ before.toList, Text.isBlank c = true) → (∀ c ∈ after.toList, Text.isBlank c = true) →
      ∃ shown, Body.field? ms "id" = some shown ∧ taskNumber (some (before ++ shown ++ after)) = .ok task.id := by
  refine ⟨fun text r => ⟨?_, NamesTask.taskNumber_eq⟩, fun text => taskNumber_eq_missing_iff, ?_⟩
  · rintro rfl
    exact namesTask_taskNumber text
  · intro task ms before after hms hlow hhigh hbefore hafter
    cases hms
    exact ⟨_, rfl, taskNumber_intText hbefore hafter (Number.fitsWord_iff.mpr ⟨hlow, hhigh⟩)⟩

/-- The least number is read back from between blanks. -/
theorem taskNumber_eq_iff_namesTask_least :
    ∃ ms shown, Server.taskValue { date := "20240101", title := "rest", comment := "", repeats := "", id := -2 ^ 63 } =
        .object ms ∧ Body.field? ms "id" = some shown ∧ shown = "-9223372036854775808" ∧
      taskNumber (some ("\t " ++ shown ++ "\n")) = .ok (-2 ^ 63) ∧
      NamesTask (some "+007") (.ok 7) ∧
      NamesTask (some " 9223372036854775808 ") (.error (numberUnreadable "9223372036854775808")) ∧
      NamesTask (some "- 1") (.error (numberUnreadable "- 1")) := by
  obtain ⟨hnames, -, hshown⟩ := taskNumber_eq_iff_namesTask
  obtain ⟨shown, hfield, hread⟩ :=
    hshown { date := "20240101", title := "rest", comment := "", repeats := "", id := -2 ^ 63 } _ "\t " "\n" rfl
      (le_refl _) (by norm_num) (List.all_eq_true.mp (by decide +kernel)) (List.all_eq_true.mp (by decide +kernel))
  obtain rfl : _ = shown := Option.some.inj hfield
  exact ⟨_, _, rfl, hfield, by decide +kernel, hread, (hnames _ _).mp (by decide +kernel),
    (hnames _ _).mp (by decide +kernel), (hnames _ _).mp (by decide +kernel)⟩

end Agenda.Api
