import Agenda.Proofs.Number.Character
import Agenda.Proofs.Task.TextSearch

/-!
# Searches for a day

Which texts name a day (`Search.NamesDay`): day and month in one or two digits, the year in up to four or, behind a
sign, in any number of them, dots between the three and perhaps blanks behind the dots. A search that shows such a text
is for that day, any other one that shows something is for its text (`Search.ofText_eq_iff_asks`).
-/

namespace Agenda

namespace Search

open Number (ofDigits)

variable {cs ds blanks rest day month year : List Char} {width n : Nat} {y : Int} {d : Date} {text s : String}

/-! ### Texts that name a day -/

/-- One or two digits that name a number. -/
structure NamesPart (ds : List Char) (n : Nat) : Prop where
  length : ds.length = 1 ∨ ds.length = 2
  digits : ∀ c ∈ ds, c.isDigit = true
  value : ofDigits ds = n

/-- Digits that name a year, at most four of them unless a sign stands before them. -/
structure NamesYear (cs : List Char) (y : Int) : Prop where
  spells : Number.Spells cs y
  short : (∀ c ∈ cs, c.isDigit = true) → cs.length ≤ 4

/-- Day, month and year of a date with dots between them, and perhaps blanks behind the dots. -/
inductive NamesDay (d : Date) : List Char → Prop
  | intro {day month year blanks blanks' : List Char} (hday : NamesPart day d.day) (hmonth : NamesPart month d.month)
      (hyear : NamesYear year d.year) (hblanks : ∀ c ∈ blanks, Text.isBlank c = true)
      (hblanks' : ∀ c ∈ blanks', Text.isBlank c = true) :
      NamesDay d (day ++ '.' :: (blanks ++ (month ++ '.' :: (blanks' ++ year))))

/-! ### Reading numbers -/

theorem isBlank_of_head?_digits (hds : ∀ c ∈ ds, c.isDigit = true) : ∀ c ∈ ds.head?, Text.isBlank c = false :=
  fun c hc => Number.isBlank_of_isDigit (hds c (List.mem_of_head? hc))

/-- A number is read past the blanks before it, up to what is no digit. -/
theorem readNumber_of_digits (hblanks : ∀ c ∈ blanks, Text.isBlank c = true) (hne : ds ≠ [])
    (hlen : ds.length ≤ width) (hds : ∀ c ∈ ds, c.isDigit = true) (hrest : ∀ c ∈ rest.head?, c.isDigit = false) :
    readNumber width (blanks ++ (ds ++ rest)) = some (ofDigits ds, rest) := by
  have hstart : (blanks ++ (ds ++ rest)).dropWhile Text.isBlank = ds ++ rest := by
    refine Text.dropWhile_isBlank_append hblanks ?_
    rw [List.head?_append_of_ne_nil ds hne]
    exact isBlank_of_head?_digits hds
  have hstop : (rest.take (width - ds.length)).takeWhile Char.isDigit = [] := by
    rcases rest with _ | ⟨c, rest⟩
    · simp
    · cases width - ds.length with
      | zero => rfl
      | succ k => exact List.takeWhile_cons_of_neg (by simp [hrest c rfl])
  have hdigits : ((ds ++ rest).take width).takeWhile Char.isDigit = ds := by
    rw [List.take_append, List.take_of_length_le hlen, List.takeWhile_append_of_pos hds, hstop, List.append_nil]
  unfold readNumber
  simp only [hstart, hdigits, if_neg hne, List.drop_left]

theorem exists_of_readNumber (h : readNumber width cs = some (n, rest)) :
    ∃ blanks ds, cs = blanks ++ (ds ++ rest) ∧ (∀ c ∈ blanks, Text.isBlank c = true) ∧ ds ≠ [] ∧ ds.length ≤ width ∧
      (∀ c ∈ ds, c.isDigit = true) ∧ ofDigits ds = n := by
  unfold readNumber at h
  simp only at h
  split at h
  · cases h
  · rename_i hne
    obtain ⟨rfl, rfl⟩ := Prod.mk.inj (Option.some.inj h)
    have hdigits := List.takeWhile_prefix (l := (cs.dropWhile Text.isBlank).take width) Char.isDigit
    refine ⟨cs.takeWhile Text.isBlank, _, ?_, fun c hc => List.mem_takeWhile_imp hc, hne, ?_,
      fun c hc => List.mem_takeWhile_imp hc, rfl⟩
    · rw [List.prefix_iff_eq_append.mp (hdigits.trans (List.take_prefix _ _)), List.takeWhile_append_dropWhile]
    · exact hdigits.length_le.trans (List.length_take_le _ _)

theorem NamesPart.readNumber_eq (h : NamesPart ds n) (hblanks : ∀ c ∈ blanks, Text.isBlank c = true) :
    readNumber 2 (blanks ++ (ds ++ '.' :: rest)) = some (n, '.' :: rest) := by
  have hlen := h.length
  have hne : ds ≠ [] := List.ne_nil_of_length_pos (by omega)
  have hdot : ∀ c ∈ ('.' :: rest).head?, c.isDigit = false := by
    rintro c ⟨⟩
    rfl
  rw [readNumber_of_digits hblanks hne (by omega) h.digits hdot, h.value]

theorem exists_namesPart (h : readNumber 2 cs = some (n, rest)) :
    ∃ blanks ds, cs = blanks ++ (ds ++ rest) ∧ (∀ c ∈ blanks, Text.isBlank c = true) ∧ NamesPart ds n := by
  obtain ⟨blanks, ds, hcs, hblanks, hne, hlen, hds, hn⟩ := exists_of_readNumber h
  have hpos := List.length_pos_iff.mpr hne
  exact ⟨blanks, ds, hcs, hblanks, by omega, hds, hn⟩

/-! ### Reading years -/

theorem readYear_of_sign {sign : Char} (hsign : sign = '-' ∨ sign = '+') (hblanks : ∀ c ∈ blanks, Text.isBlank c = true)
    (hne : ds ≠ []) (hds : ∀ c ∈ ds, c.isDigit = true) :
    readYear (blanks ++ sign :: ds) = some (if sign = '-' then -(ofDigits ds : Int) else ofDigits ds, []) := by
  have hstart : (blanks ++ sign :: ds).dropWhile Text.isBlank = sign :: ds := by
    refine Text.dropWhile_isBlank_append hblanks ?_
    rintro c ⟨⟩
    rcases hsign with rfl | rfl <;> rfl
  have hdigits : ds.takeWhile Char.isDigit = ds := List.takeWhile_eq_self_iff.mpr hds
  unfold readYear
  simp only [hstart, hdigits, if_neg hne, List.drop_length]
  rcases hsign with rfl | rfl <;> rfl

theorem readYear_of_digits (hblanks : ∀ c ∈ blanks, Text.isBlank c = true) (hne : ds ≠ []) (hlen : ds.length ≤ 4)
    (hds : ∀ c ∈ ds, c.isDigit = true) : readYear (blanks ++ ds) = some ((ofDigits ds : Int), []) := by
  have hread : readNumber 4 ([] ++ (ds ++ [])) = some (ofDigits ds, []) :=
    readNumber_of_digits (by simp) hne hlen hds (by simp)
  rw [List.nil_append, List.append_nil] at hread
  have hstart : (blanks ++ ds).dropWhile Text.isBlank = ds :=
    Text.dropWhile_isBlank_append hblanks (isBlank_of_head?_digits hds)
  unfold readYear
  rw [hstart]
  obtain ⟨c, ds, rfl⟩ := List.exists_cons_of_ne_nil hne
  have hsign : (decide (c = '-') || decide (c = '+')) = false := by
    have hdigit := hds c List.mem_cons_self
    rw [Bool.or_eq_false_iff, decide_eq_false_iff_not, decide_eq_false_iff_not]
    constructor <;> rintro rfl <;> exact absurd hdigit (by decide)
  simp only [hsign, hread, Option.map_some, Bool.false_eq_true, if_false]

theorem namesYear_of_sign {sign : Char} (hsign : sign = '-' ∨ sign = '+') (hne : ds ≠ [])
    (hds : ∀ c ∈ ds, c.isDigit = true) :
    NamesYear (sign :: ds) (if sign = '-' then -(ofDigits ds : Int) else ofDigits ds) where
  spells := by
    rcases hsign with rfl | rfl
    · exact .minus hne hds
    · exact .plus hne hds
  short hdigits := by
    have hdigit := hdigits sign List.mem_cons_self
    rcases hsign with rfl | rfl <;> exact absurd hdigit (by decide)

theorem NamesYear.readYear_eq (h : NamesYear year y) (hblanks : ∀ c ∈ blanks, Text.isBlank c = true) :
    readYear (blanks ++ year) = some (y, []) := by
  obtain ⟨hspells, hshort⟩ := h
  cases hspells with
  | plain hne hds => exact readYear_of_digits hblanks hne (hshort hds) hds
  | plus hne hds => exact readYear_of_sign (Or.inr rfl) hblanks hne hds
  | minus hne hds => exact readYear_of_sign (Or.inl rfl) hblanks hne hds

theorem exists_namesYear (h : readYear cs = some (y, [])) :
    ∃ blanks year, cs = blanks ++ year ∧ (∀ c ∈ blanks, Text.isBlank c = true) ∧ NamesYear year y := by
  have hcs := List.takeWhile_append_dropWhile (p := Text.isBlank) (l := cs)
  have hblanks : ∀ c ∈ cs.takeWhile Text.isBlank, Text.isBlank c = true := fun c hc => List.mem_takeWhile_imp hc
  unfold readYear at h
  split at h
  · rename_i sign rest hstart
    rw [hstart] at hcs
    split at h
    · rename_i hsign
      have hsign : sign = '-' ∨ sign = '+' := by simpa using hsign
      simp only at h
      split at h
      · cases h
      · rename_i hne
        obtain ⟨rfl, hend⟩ := Prod.mk.inj (Option.some.inj h)
        -- Nothing follows the digits, so they are all there is behind the sign.
        have hall := List.prefix_iff_eq_append.mp (List.takeWhile_prefix (l := rest) Char.isDigit)
        rw [hend, List.append_nil] at hall
        have hds : ∀ c ∈ rest, c.isDigit = true := List.takeWhile_eq_self_iff.mp hall
        rw [hall] at hne ⊢
        exact ⟨_, sign :: rest, hcs.symm, hblanks, namesYear_of_sign hsign hne hds⟩
    · obtain ⟨⟨n, rest'⟩, hread, heq⟩ := Option.map_eq_some_iff.mp h
      obtain ⟨rfl, rfl⟩ := Prod.mk.inj heq
      obtain ⟨blanks', ds, hds', hblanks', hne, hlen, hds, rfl⟩ := exists_of_readNumber hread
      rw [List.append_nil] at hds'
      rw [hds'] at hcs
      refine ⟨cs.takeWhile Text.isBlank ++ blanks', ds, by rw [List.append_assoc, hcs], fun c hc => ?_, .plain hne hds,
        fun _ => hlen⟩
      exact (List.mem_append.mp hc).elim (hblanks c) (hblanks' c)
  · cases h

/-! ### Reading days -/

theorem NamesDay.readDay_eq (h : NamesDay d cs) : readDay cs = some d := by
  cases h with
  | @intro day month year blanks blanks' hday hmonth hyear hblanks hblanks' =>
    have hreadDay : readNumber 2 ([] ++ (day ++ '.' :: (blanks ++ (month ++ '.' :: (blanks' ++ year))))) = _ :=
      hday.readNumber_eq (List.forall_mem_nil _)
    rw [List.nil_append] at hreadDay
    have hdate : Date.of? d.year d.month d.day = some d := Date.of?_eq_some_iff.mpr ⟨rfl, rfl, rfl⟩
    unfold readDay
    simp only [hreadDay, hmonth.readNumber_eq hblanks, hyear.readYear_eq hblanks', Int.natCast_nonneg, if_true,
      Int.toNat_natCast, hdate]

theorem namesDay_of_readDay (hfirst : ∀ c ∈ cs.head?, Text.isBlank c = false) (h : readDay cs = some d) :
    NamesDay d cs := by
  unfold readDay at h
  split at h
  · rename_i n cs₁ hn
    split at h
    · rename_i m cs₂ hm
      split at h
      · rename_i y hy
        split at h
        · rename_i hnonneg
          obtain ⟨hyear, rfl, rfl⟩ := Date.of?_eq_some_iff.mp h
          obtain rfl : (d.year : Int) = y := by omega
          obtain ⟨before, day, rfl, hbefore, hday⟩ := exists_namesPart hn
          obtain ⟨blanks, month, rfl, hblanks, hmonth⟩ := exists_namesPart hm
          obtain ⟨blanks', year, rfl, hblanks', hyear⟩ := exists_namesYear hy
          cases before with
          | nil => exact .intro hday hmonth hyear hblanks hblanks'
          | cons b before =>
            have hblank := hbefore b List.mem_cons_self
            rw [hfirst b rfl] at hblank
            cases hblank
        · cases h
      · cases h
    · cases h
  · cases h

theorem readDay_eq_some_iff (hfirst : ∀ c ∈ cs.head?, Text.isBlank c = false) : readDay cs = some d ↔ NamesDay d cs :=
  ⟨namesDay_of_readDay hfirst, NamesDay.readDay_eq⟩

/-! ### Searches -/

/-- The texts of searches and what they ask for. -/
inductive Asks : Option String → Search → Prop
  /-- Without a text, for every task. -/
  | nothing : Asks none .all
  /-- Blanks alone are no text. -/
  | blank {text : String} (hblank : ∀ c ∈ text.toList, Text.isBlank c = true) : Asks (some text) .all
  /-- What stands between blanks names a day. -/
  | day {text s : String} {d : Date} (htrims : Text.Trims text.toList s.toList) (hday : NamesDay d s.toList) :
      Asks (some text) (.onDate d)
  /-- What stands between blanks is something else. -/
  | words {text s : String} (htrims : Text.Trims text.toList s.toList) (hshown : s ≠ "")
      (hno : ∀ d, ¬NamesDay d s.toList) : Asks (some text) (.containing s)

theorem ofText_of_blank (hblank : ∀ c ∈ text.toList, Text.isBlank c = true) : ofText (some text) = all := by
  have htrim : Text.trim text = "" := Text.trim_eq_empty_iff_forall.mpr hblank
  unfold ofText
  simp only [if_pos htrim]

theorem NamesDay.ne_empty (h : NamesDay d s.toList) : s ≠ "" := by
  rintro rfl
  have hread := h.readDay_eq
  cases hread

theorem ofText_of_namesDay (htrims : Text.Trims text.toList s.toList) (hday : NamesDay d s.toList) :
    ofText (some text) = onDate d := by
  have htrim := Text.trim_eq_iff.mpr htrims
  refine ofText_of_readDay_eq_some ?_ ?_
  · rw [htrim]
    exact hday.ne_empty
  · rw [htrim]
    exact hday.readDay_eq

theorem ofText_of_words (htrims : Text.Trims text.toList s.toList) (hshown : s ≠ "")
    (hno : ∀ d, ¬NamesDay d s.toList) : ofText (some text) = containing s := by
  obtain rfl := Text.trim_eq_iff.mpr htrims
  refine ofText_of_readDay_eq_none hshown ?_
  rw [Option.eq_none_iff_forall_ne_some]
  exact fun d hd => hno d ((readDay_eq_some_iff htrims.first).mp hd)

theorem Asks.ofText_eq {search : Option String} {r : Search} (h : Asks search r) : ofText search = r := by
  cases h with
  | nothing => rfl
  | blank hblank => exact ofText_of_blank hblank
  | day htrims hday => exact ofText_of_namesDay htrims hday
  | words htrims hshown hno => exact ofText_of_words htrims hshown hno

theorem exists_asks (search : Option String) : ∃ r, Asks search r := by
  cases search with
  | none => exact ⟨_, .nothing⟩
  | some text =>
    by_cases hblank : ∀ c ∈ text.toList, Text.isBlank c = true
    · exact ⟨_, .blank hblank⟩
    · have htrims : Text.Trims text.toList (Text.trim text).toList := Text.trim_eq_iff.mp rfl
      have hshown : Text.trim text ≠ "" := mt Text.trim_eq_empty_iff_forall.mp hblank
      by_cases hday : ∃ d, NamesDay d (Text.trim text).toList
      · exact ⟨_, .day htrims hday.choose_spec⟩
      · exact ⟨_, .words htrims hshown (not_exists.mp hday)⟩

/-! ### Dates as searches -/

/-- A date in two digits, two digits and four digits, with dots between them. -/
def dayText (d : Date) : String :=
  String.ofList (Number.padded 2 d.day ++ '.' :: (Number.padded 2 d.month ++ '.' :: Number.padded 4 d.year))

theorem namesPart_padded (h : n < 100) : NamesPart (Number.padded 2 n) n where
  length := Or.inr (Number.length_padded (by decide) h)
  digits _ := Number.isDigit_of_mem_padded
  value := Number.ofDigits_padded 2 n

theorem namesYear_padded (h : n ≤ 9999) : NamesYear (Number.padded 4 n) n where
  spells := by
    have hlen := Number.length_padded (show 0 < 4 by decide) (show n < 10 ^ 4 by omega)
    have hspells : Number.Spells (Number.padded 4 n) (ofDigits (Number.padded 4 n)) :=
      .plain (List.ne_nil_of_length_pos (by omega)) fun _ => Number.isDigit_of_mem_padded
    rwa [Number.ofDigits_padded] at hspells
  short _ := (Number.length_padded (by decide) (by omega)).le

theorem namesDay_dayText (d : Date) : NamesDay d (dayText d).toList := by
  have hday := d.day_le_31
  have hmonth := d.month_le
  have hnames : NamesDay d
      (Number.padded 2 d.day ++ '.' :: ([] ++ (Number.padded 2 d.month ++ '.' :: ([] ++ Number.padded 4 d.year)))) :=
    .intro (namesPart_padded (by omega)) (namesPart_padded (by omega)) (namesYear_padded d.year_le)
      (List.forall_mem_nil _) (List.forall_mem_nil _)
  unfold dayText
  rwa [String.toList_ofList]

theorem not_blank_of_mem_dayText {c : Char} (h : c ∈ (dayText d).toList) : Text.isBlank c = false := by
  have hdigit : ∀ {width n : Nat}, c ∈ Number.padded width n → Text.isBlank c = false :=
    fun hc => Number.isBlank_of_isDigit (Number.isDigit_of_mem_padded hc)
  unfold dayText at h
  rw [String.toList_ofList] at h
  simp only [List.mem_append, List.mem_cons] at h
  rcases h with h | rfl | h | rfl | h
  · exact hdigit h
  · rfl
  · exact hdigit h
  · rfl
  · exact hdigit h

/-- The text of a search decides what it asks for: without a text, or with one of blanks alone, every task; with one
that names a day between blanks, the tasks of that day; else the tasks that contain what stands between the blanks. A
date as `DD.MM.YYYY`, whatever blanks are put around it, asks for the tasks of that date. -/
theorem ofText_eq_iff_asks :
    (∀ search r, ofText search = r ↔ Asks search r) ∧
    ∀ (d : Date) (before after : String), (∀ c ∈ before.toList, Text.isBlank c = true) →
      (∀ c ∈ after.toList, Text.isBlank c = true) → ofText (some (before ++ dayText d ++ after)) = onDate d := by
  refine ⟨fun search r => ⟨?_, Asks.ofText_eq⟩, fun d before after hbefore hafter => ?_⟩
  · rintro rfl
    obtain ⟨r, hr⟩ := exists_asks search
    rw [hr.ofText_eq]
    exact hr
  · refine ofText_of_namesDay ?_ (namesDay_dayText d)
    rw [String.toList_append, String.toList_append]
    exact Text.trims_of_not_blank (fun _ => not_blank_of_mem_dayText) hbefore hafter

/-- New Year's Day of 2023 is asked for with blanks around its ten characters, with a sign and many zeros before the
year, and with single digits; a year of five digits without a sign makes a text, and so does a 30 February. -/
theorem ofText_eq_iff_asks_newYear :
    dayText Date.newYear = "01.01.2023" ∧ ofText (some ("\t" ++ dayText Date.newYear ++ " ")) = onDate Date.newYear ∧
      Asks (some " 1. 1.\n+00000002023 ") (.onDate Date.newYear) ∧
      Asks (some "01.01.02023") (.containing "01.01.02023") ∧
      Asks (some "30.02.2023") (.containing "30.02.2023") ∧ Asks (some " \t") .all := by
  obtain ⟨hasks, hshown⟩ := ofText_eq_iff_asks
  exact ⟨by decide +kernel,
    hshown Date.newYear "\t" " " (List.all_eq_true.mp (by decide +kernel)) (List.all_eq_true.mp (by decide +kernel)),
    (hasks _ _).mp (by decide +kernel), (hasks _ _).mp (by decide +kernel), (hasks _ _).mp (by decide +kernel),
    (hasks _ _).mp (by decide +kernel)⟩

end Search

end Agenda
