import Agenda.Proofs.Api.TaskNumber
import Agenda.Proofs.Repeat.Grammar
import Agenda.Proofs.Text.Quoted

/-!
# Wordings that quote a text

The readers of dates, of rules and of numbers of tasks quote what they refuse (`Failure.Quotes`). The first quote of
such a wording is where the quoted text begins, and a quoted text tells where it ends, so two wordings are the same only
if the texts are; and none of them holds a character that a reader cannot see (`Failure.quotes_losslessly`).
-/

namespace Agenda.Api.Failure

variable {f g : Failure} {a b before after : String}

/-- The failures whose wording quotes a text, each with the text. -/
inductive Quotes : Failure → String → Prop
  | invalidDate (text : String) : Quotes (.rule (.invalidDate text)) text
  | malformedRule (text : String) : Quotes (.rule (.malformedRule text)) text
  | unsupportedRule (text : String) : Quotes (.rule (.unsupportedRule text)) text
  /-- Work on the tasks fails with the same wordings. -/
  | ofTask {cause : RuleError} {text : String} (h : Quotes (.rule cause) text) : Quotes (.task (.rule cause)) text
  | numberUnreadable (text : String) : Quotes (numberUnreadable text) text

/-! ### Around the quotation -/

/-- All characters of the text are seen, and none of them is a quote. -/
def isPlain (s : String) : Bool :=
  s.toList.all fun c => Text.isSeen c && c != '"'

theorem isPlain_iff : isPlain before = true ↔ ∀ c ∈ before.toList, Text.isSeen c = true ∧ c ≠ '"' := by
  simp [isPlain]

theorem Quotes.exists_frame (h : Quotes f a) : ∃ before after, f.message = before ++ Text.quoted a ++ after ∧
    isPlain before = true ∧ isPlain after = true := by
  induction h with
  | invalidDate text => exact ⟨"invalid date ", ", expected YYYYMMDD", rfl, by decide +kernel, by decide +kernel⟩
  | malformedRule text => exact ⟨"malformed repeat rule: ", "", (String.append_empty).symm, by decide +kernel, rfl⟩
  | unsupportedRule text => exact ⟨"unsupported repeat rule: ", "", (String.append_empty).symm, by decide +kernel, rfl⟩
  | ofTask _ ih => exact ih
  | numberUnreadable text => exact ⟨"invalid task id: ", "", (String.append_empty).symm, by decide +kernel, rfl⟩

/-- What stands before the quotation ends at the first quote. -/
theorem cutAt_quoted (h : isPlain before = true) :
    Text.cutAt '"' (before ++ Text.quoted a ++ after).toList =
      (before.toList, some (a.toList.flatMap Text.quotedChar ++ '"' :: after.toList)) := by
  have hbefore : '"' ∉ before.toList := fun hmem => (isPlain_iff.mp h _ hmem).2 rfl
  simp only [String.toList_append, Text.toList_quoted, List.append_assoc, List.cons_append, List.nil_append]
  exact Text.cutAt_append_cons hbefore _

theorem Quotes.eq_of_message_eq (hf : Quotes f a) (hg : Quotes g b) (h : f.message = g.message) : a = b := by
  obtain ⟨before, after, hmessage, hbefore, -⟩ := hf.exists_frame
  obtain ⟨before', after', hmessage', hbefore', -⟩ := hg.exists_frame
  have hcut := congrArg (fun message : String => Text.cutAt '"' message.toList) h
  simp only [hmessage, hmessage', cutAt_quoted hbefore, cutAt_quoted hbefore', Prod.mk.injEq, Option.some.injEq] at hcut
  exact String.toList_inj.mp (Text.flatMap_quotedChar_inj hcut.2).1

theorem Quotes.isSeen_of_mem_message (h : Quotes f a) {c : Char} (hc : c ∈ f.message.toList) :
    Text.isSeen c = true := by
  obtain ⟨before, after, hmessage, hbefore, hafter⟩ := h.exists_frame
  simp only [hmessage, String.toList_append, List.mem_append] at hc
  rcases hc with (hc | hc) | hc
  · exact (isPlain_iff.mp hbefore c hc).1
  · exact Text.isSeen_of_mem_quoted hc
  · exact (isPlain_iff.mp hafter c hc).1

/-! ### What the readers refuse -/

theorem quotes_of_date {e : RuleError} (h : Date.parse a = .error e) : Quotes (.rule e) a := by
  unfold Date.parse at h
  split at h <;> cases h
  exact .invalidDate a

/-- A text that is no rule is quoted, unless it is empty or has a step that is out of range. -/
theorem quotes_of_rule {e : RuleError} (h : Rule.parse a = .error e) :
    Quotes (.rule e) a ∨ e = .missingRule ∨ ∃ n, e = .stepOutOfRange n := by
  have hreads := Rule.reads_parse a
  rw [h] at hreads
  cases hreads with
  | missing => exact Or.inr (Or.inl rfl)
  | crowded => exact Or.inl (.malformedRule _)
  | stepless => exact Or.inl (.malformedRule _)
  | unnumbered => exact Or.inl (.malformedRule _)
  | @outOfRange _ n => exact Or.inr (Or.inr ⟨n, rfl⟩)
  | unsupported => exact Or.inl (.unsupportedRule _)

theorem quotes_of_number (h : taskNumber (some a) = .error f) :
    Quotes f (Text.trim a) ∨ f = numberMissing ∧ Text.trim a = "" := by
  have hnames := namesTask_taskNumber (some a)
  rw [h] at hnames
  cases hnames with
  | blank hblank => exact Or.inr ⟨rfl, Text.trim_eq_empty_iff_forall.mpr hblank⟩
  | unreadable htrims =>
    rw [Text.trim_eq_iff.mpr htrims]
    exact Or.inl (.numberUnreadable _)

theorem message_ne_numberMissing (h : Quotes f a) : f.message ≠ numberMissing.message := by
  intro heq
  obtain ⟨before, after, hmessage, hbefore, -⟩ := h.exists_frame
  have hcut := congrArg (fun message : String => (Text.cutAt '"' message.toList).2) heq
  rw [hmessage, cutAt_quoted hbefore] at hcut
  have hnone : (Text.cutAt '"' numberMissing.message.toList).2 = none := by decide +kernel
  simp [hnone] at hcut

/-- Two wordings that quote a text are the same only if the texts are, and nothing in them is a raw control, whatever the
text. A date that is refused is quoted as it was given; so is a rule, unless none is given or its step is out of range;
and of what is given for the number of a task the part between the blanks is told. -/
theorem quotes_losslessly :
    (∀ f g a b, Quotes f a → Quotes g b → f.message = g.message → a = b) ∧
    (∀ f a, Quotes f a → ∀ c ∈ f.message.toList, ¬Text.IsControl c) ∧
    (∀ a e, Date.parse a = .error e → Quotes (.rule e) a) ∧
    (∀ a e, Rule.parse a = .error e → Quotes (.rule e) a ∨ e = .missingRule ∨ ∃ n, e = .stepOutOfRange n) ∧
    ∀ a b f g, taskNumber (some a) = .error f → taskNumber (some b) = .error g → f.message = g.message →
      Text.trim a = Text.trim b := by
  refine ⟨fun f g a b => Quotes.eq_of_message_eq, fun f a h c hc => ?_, fun a e => quotes_of_date,
    fun a e => quotes_of_rule, fun a b f g hf hg h => ?_⟩
  · exact Text.not_isControl_of_isSeen (h.isSeen_of_mem_message hc)
  · rcases quotes_of_number hf with hquotes | ⟨rfl, ha⟩
    · rcases quotes_of_number hg with hquotes' | ⟨rfl, -⟩
      · exact hquotes.eq_of_message_eq hquotes' h
      · exact absurd h (message_ne_numberMissing hquotes)
    · rcases quotes_of_number hg with hquotes' | ⟨rfl, hb⟩
      · exact absurd h.symm (message_ne_numberMissing hquotes')
      · rw [ha, hb]

/-- A tab is not told like the two characters of its escape, blanks around the number of a task are not told at all, and a
separator of lines is not told as it is. -/
theorem quotes_losslessly_tab :
    Date.parse "\t" = .error (.invalidDate "\t") ∧ Quotes (.rule (.invalidDate "\t")) "\t" ∧
      (Failure.rule (.invalidDate "\t")).message ≠ (Failure.task (.rule (.invalidDate "\\t"))).message ∧
      Rule.parse "w\u2028" = .error (.unsupportedRule "w\u2028") ∧
      (Failure.rule (.unsupportedRule "w\u2028")).message = "unsupported repeat rule: \"w\\u\x7b2028\x7d\"" ∧
      (∀ c ∈ (Failure.rule (.unsupportedRule "w\u2028")).message.toList, ¬Text.IsControl c) ∧
      taskNumber (some " 1x") = .error (numberUnreadable "1x") ∧
      taskNumber (some "1x\u2028") = .error (numberUnreadable "1x") ∧ Text.trim " 1x" = Text.trim "1x\u2028" := by
  obtain ⟨heq, hseen, hdate, hrule, hnumber⟩ := quotes_losslessly
  have htab : Date.parse "\t" = .error (.invalidDate "\t") := by decide +kernel
  have hquotes := hdate _ _ htab
  have hunsupported : Rule.parse "w\u2028" = .error (.unsupportedRule "w\u2028") := by decide +kernel
  have hbefore : taskNumber (some " 1x") = .error (numberUnreadable "1x") := by decide +kernel
  have hafter : taskNumber (some "1x\u2028") = .error (numberUnreadable "1x") := by decide +kernel
  refine ⟨htab, hquotes, fun h => ?_, hunsupported, by decide +kernel, ?_, hbefore, hafter,
    hnumber _ _ _ _ hbefore hafter rfl⟩
  · exact absurd (heq _ _ _ _ hquotes (.ofTask (.invalidDate _)) h) (by decide)
  · rcases hrule _ _ hunsupported with h | h | ⟨n, h⟩
    · exact hseen _ _ h
    · cases h
    · cases h

end Agenda.Api.Failure
