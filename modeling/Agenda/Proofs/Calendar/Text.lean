import Agenda.Repeat.Error
import Agenda.Proofs.Calendar.Order
import Agenda.Proofs.Number.Decimal
import Agenda.Proofs.Text.Utf8

/-!
# The eight digits of a date

A date is written in eight digits, and these digits name it again; no other text does (`text_of_parse`). A text is
read as the date that its first four digits, the next two and the last two name (`parse_eq_ok_iff_names`). Texts of
dates come in the order of the dates (`text_lt_text`), byte by byte too.
-/

namespace Agenda

namespace Date

theorem exists_padded_two {n : Nat} (h : n < 100) : ∃ a b, Number.padded 2 n = [a, b] := by
  have hlen : (Number.padded 2 n).length = 2 := Number.length_padded (by omega) h
  match Number.padded 2 n, hlen with
  | [a, b], _ => exact ⟨a, b, rfl⟩

theorem exists_padded_four {n : Nat} (h : n < 10000) : ∃ a b c d, Number.padded 4 n = [a, b, c, d] := by
  have hlen : (Number.padded 4 n).length = 4 := Number.length_padded (by omega) h
  match Number.padded 4 n, hlen with
  | [a, b, c, d], _ => exact ⟨a, b, c, d, rfl⟩

theorem ofText?_text (d : Date) : ofText? d.text = some d := by
  have hyear := Number.readDigits_padded 4 d.year
  have hmonth := Number.readDigits_padded 2 d.month
  have hday := Number.readDigits_padded 2 d.day
  obtain ⟨y₁, y₂, y₃, y₄, hy⟩ := exists_padded_four (Nat.lt_succ_of_le d.year_le)
  obtain ⟨m₁, m₂, hm⟩ := exists_padded_two (show d.month < 100 by have := d.month_le; omega)
  obtain ⟨d₁, d₂, hd⟩ := exists_padded_two (show d.day < 100 by have := d.day_le_31; omega)
  rw [hy] at hyear
  rw [hm] at hmonth
  rw [hd] at hday
  unfold ofText? text
  rw [hy, hm, hd, String.toList_ofList]
  simp only [List.cons_append, List.nil_append, hyear, hmonth, hday]
  exact of?_eq_some_iff.mpr ⟨rfl, rfl, rfl⟩

theorem parse_eq_ok_iff {s : String} {d : Date} : parse s = .ok d ↔ ofText? s = some d := by
  unfold parse
  cases ofText? s <;> simp

theorem parse_text (d : Date) : parse d.text = .ok d :=
  parse_eq_ok_iff.mpr (ofText?_text d)

theorem text_of_ofText? {s : String} {d : Date} (h : ofText? s = some d) : d.text = s := by
  unfold ofText? at h
  split at h
  · rename_i y₁ y₂ y₃ y₄ m₁ m₂ d₁ d₂ hs
    split at h
    · rename_i y m k hy hm hk
      obtain ⟨rfl, rfl, rfl⟩ := of?_eq_some_iff.mp h
      have hy : Number.padded 4 d.year = [y₁, y₂, y₃, y₄] := Number.padded_of_readDigits hy
      have hm : Number.padded 2 d.month = [m₁, m₂] := Number.padded_of_readDigits hm
      have hk : Number.padded 2 d.day = [d₁, d₂] := Number.padded_of_readDigits hk
      unfold text
      rw [hy, hm, hk, ← String.ofList_toList (s := s), hs]
      rfl
    · cases h
  · cases h

theorem text_of_parse {s : String} {d : Date} (h : parse s = .ok d) : d.text = s :=
  text_of_ofText? (parse_eq_ok_iff.mp h)

/-- A text is read as the date that it is the text of. -/
theorem parse_eq_ok_iff_text {s : String} {d : Date} : parse s = .ok d ↔ d.text = s := by
  constructor
  · exact text_of_parse
  · rintro rfl
    exact parse_text d

/-- A text that is the text of no date is refused, and named in the error. -/
theorem parse_of_forall_ne {s : String} (h : ∀ d : Date, d.text ≠ s) : parse s = .error (.invalidDate s) := by
  unfold parse
  cases hs : ofText? s with
  | none => rfl
  | some d => exact absurd (text_of_ofText? hs) (h d)

/-! ### Order -/

theorem length_year (d : Date) : (Number.padded 4 d.year).length = 4 :=
  Number.length_padded (by omega) (Nat.lt_succ_of_le d.year_le)

theorem length_month (d : Date) : (Number.padded 2 d.month).length = 2 :=
  Number.length_padded (by omega) (show d.month < 100 by have := d.month_le; omega)

theorem length_day (d : Date) : (Number.padded 2 d.day).length = 2 :=
  Number.length_padded (by omega) (show d.day < 100 by have := d.day_le_31; omega)

/-- The digits of a date, read as one number, are its number. -/
theorem ofDigits_text (d : Date) : Number.ofDigits d.text.toList = d.number := by
  unfold text number
  rw [String.toList_ofList, Number.ofDigits_append, Number.ofDigits_append, d.length_month, d.length_day,
    Number.ofDigits_padded, Number.ofDigits_padded, Number.ofDigits_padded]
  omega

theorem isDigit_of_mem_text {d : Date} {c : Char} (h : c ∈ d.text.toList) : c.isDigit = true := by
  unfold text at h
  rw [String.toList_ofList, List.mem_append, List.mem_append] at h
  rcases h with (h | h) | h <;> exact Number.isDigit_of_mem_padded h

theorem length_text (d : Date) : d.text.toList.length = 8 := by
  unfold text
  rw [String.toList_ofList, List.length_append, List.length_append, d.length_year, d.length_month, d.length_day]

theorem text_lt_text {a b : Date} : a.text < b.text ↔ a < b := by
  rw [String.lt_iff_toList_lt, Number.lt_iff_ofDigits_lt (fun _ => isDigit_of_mem_text) (fun _ => isDigit_of_mem_text)
    (a.length_text.trans b.length_text.symm), ofDigits_text, ofDigits_text, lt_iff_number]

theorem isAscii_of_mem_text {d : Date} {c : Char} (h : c ∈ d.text.toList) : c.toNat < 0x80 := by
  have hle := (Char.isDigit_iff_toNat.mp (isDigit_of_mem_text h)).2
  have h9 : '9'.toNat = 57 := rfl
  omega

/-- The bytes of the texts come in the order of the dates. -/
theorem encode_text_lt_encode_text {a b : Date} :
    Text.Utf8.encode a.text.toList < Text.Utf8.encode b.text.toList ↔ a < b := by
  rw [Text.Utf8.encode_lt_encode_of_ascii (fun _ => isAscii_of_mem_text) (fun _ => isAscii_of_mem_text),
    ← String.lt_iff_toList_lt, text_lt_text]

/-! ### What eight digits name -/

/-- The text is eight digits; the first four are the year of the date, the next two its month, the last two its day. -/
structure Names (text : String) (d : Date) : Prop where
  length : text.toList.length = 8
  digits : ∀ c ∈ text.toList, c.isDigit = true
  year : Number.ofDigits (text.toList.take 4) = d.year
  month : Number.ofDigits ((text.toList.drop 4).take 2) = d.month
  day : Number.ofDigits (text.toList.drop 6) = d.day

theorem names_text (d : Date) : Names d.text d := by
  have htext : d.text.toList = Number.padded 4 d.year ++ (Number.padded 2 d.month ++ Number.padded 2 d.day) := by
    unfold text
    rw [String.toList_ofList, List.append_assoc]
  have hdrop : d.text.toList.drop 4 = Number.padded 2 d.month ++ Number.padded 2 d.day := by
    rw [htext, List.drop_left' d.length_year]
  have hday : d.text.toList.drop 6 = Number.padded 2 d.day := by
    rw [show 6 = 4 + 2 from rfl, ← List.drop_drop, hdrop, List.drop_left' d.length_month]
  refine ⟨d.length_text, fun c hc => isDigit_of_mem_text hc, ?_, ?_, ?_⟩
  · rw [htext, List.take_left' d.length_year, Number.ofDigits_padded]
  · rw [hdrop, List.take_left' d.length_month, Number.ofDigits_padded]
  · rw [hday, Number.ofDigits_padded]

/-- Each field is written again in the digits that it is read from. -/
theorem Names.text_eq {s : String} {d : Date} (h : Names s d) : d.text = s := by
  have hlength := h.length
  have hyear : Number.padded 4 d.year = s.toList.take 4 := by
    rw [← h.year]
    exact Number.padded_ofDigits (by simp [hlength]) (by omega) fun c hc => h.digits c (List.mem_of_mem_take hc)
  have hmonth : Number.padded 2 d.month = (s.toList.drop 4).take 2 := by
    rw [← h.month]
    exact Number.padded_ofDigits (by simp [hlength]) (by omega) fun c hc =>
      h.digits c (List.mem_of_mem_drop (List.mem_of_mem_take hc))
  have hday : Number.padded 2 d.day = (s.toList.drop 4).drop 2 := by
    rw [← h.day, List.drop_drop]
    exact Number.padded_ofDigits (by simp [hlength]) (by omega) fun c hc => h.digits c (List.mem_of_mem_drop hc)
  unfold text
  rw [hyear, hmonth, hday, List.append_assoc, List.take_append_drop, List.take_append_drop, String.ofList_toList]

theorem parse_eq_ok_iff_names {s : String} {d : Date} : parse s = .ok d ↔ Names s d := by
  rw [parse_eq_ok_iff_text]
  constructor
  · rintro rfl
    exact names_text d
  · exact Names.text_eq

/-- Reading and writing a date are inverse to each other, and keep the order. A text is read as the date that it names
in eight digits, and that date is written as the text; a text that names none is refused with an error that carries
it. Every date is written in eight digits that are read as the date. Of two dates the one whose bytes come first is the
earlier one: the one with the earlier year, in one year the earlier month, in one month the earlier day. -/
theorem parse_text_inverse :
    (∀ s d, parse s = .ok d ↔ Names s d) ∧
    (∀ s d, parse s = .ok d → d.text = s) ∧
    (∀ s, (¬∃ d, Names s d) → parse s = .error (.invalidDate s)) ∧
    (∀ d : Date, d.text.toList.length = 8 ∧ (∀ c ∈ d.text.toList, c.isDigit = true) ∧ parse d.text = .ok d) ∧
    ∀ a b : Date, (a < b ↔ Text.Utf8.encode a.text.toList < Text.Utf8.encode b.text.toList) ∧
      (a < b ↔ a.year < b.year ∨ a.year = b.year ∧ (a.month < b.month ∨ a.month = b.month ∧ a.day < b.day)) := by
  refine ⟨fun s d => parse_eq_ok_iff_names, fun s d => text_of_parse, fun s hno => ?_, fun d => ?_, fun a b => ?_⟩
  · refine parse_of_forall_ne fun d hd => hno ⟨d, ?_⟩
    exact parse_eq_ok_iff_names.mp (parse_eq_ok_iff_text.mpr hd)
  · exact ⟨d.length_text, fun c hc => isDigit_of_mem_text hc, parse_text d⟩
  · exact ⟨encode_text_lt_encode_text.symm, lt_iff⟩

/-- The leap day of 2024 is read from its digits and written in them again; 2023 has none, so there the same month and
day are refused. -/
theorem parse_text_inverse_leapDay :
    (∃ d, of? 2024 2 29 = some d ∧ parse "20240229" = .ok d ∧ d.text = "20240229") ∧
      parse "20230229" = .error (.invalidDate "20230229") := by
  obtain ⟨hparse, htext, hinvalid, -, -⟩ := parse_text_inverse
  constructor
  · obtain ⟨d, hd⟩ : ∃ d, of? 2024 2 29 = some d := ⟨_, rfl⟩
    obtain ⟨hyear, hmonth, hday⟩ := of?_eq_some_iff.mp hd
    have hok := (hparse "20240229" d).mpr ⟨rfl, by simp, hyear.symm, hmonth.symm, hday.symm⟩
    exact ⟨d, hd, hok, htext _ _ hok⟩
  · refine hinvalid _ ?_
    rintro ⟨d, hd⟩
    have hyear : d.year = 2023 := hd.year.symm
    have hmonth : d.month = 2 := hd.month.symm
    have hday : d.day = 29 := hd.day.symm
    have hle := d.day_le
    rw [hyear, hmonth, hday] at hle
    exact absurd hle (by decide)

end Date

end Agenda
