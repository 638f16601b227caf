import Agenda.Proofs.Repeat.Rule

/-!
# The grammar of repeat rules

Which texts name a rule, and what every other text is refused for (`Rule.Reads`), in terms of the spaces of the text,
the word before the first of them and the number after it. The reader of rules decides this grammar
(`Rule.parse_eq_iff_reads`).
-/

namespace Agenda

namespace Rule

variable {text : String} {word : List Char} {ps : List (List Char)} {r : Except RuleError Rule}

/-- What stands before the first space. -/
def firstWord (text : String) : List Char :=
  text.toList.takeWhile (· ≠ ' ')

/-- The texts and what they are read as. -/
inductive Reads : String → Except RuleError Rule → Prop
  /-- The empty text is no rule. -/
  | missing : Reads "" (.error .missingRule)
  /-- Two spaces or more make more than two words, whatever they are. -/
  | crowded {text : String} (hspaces : 2 ≤ text.toList.count ' ') : Reads text (.error (.malformedRule text))
  /-- A daily rule needs a second word. -/
  | stepless : Reads "d" (.error (.malformedRule "d"))
  /-- The second word of a daily rule is a number of a signed word of 64 bits. -/
  | unnumbered {s : String} (hs : ' ' ∉ s.toList) (hno : ∀ v, Number.Spells s.toList v → Number.fitsWord v = false) :
      Reads ("d " ++ s) (.error (.malformedRule ("d " ++ s)))
  /-- That number is one of 1 to 400. -/
  | outOfRange {s : String} {v : Int} (hv : Number.Spells s.toList v) (hfits : Number.fitsWord v = true)
      (hout : v < 1 ∨ 400 < v) : Reads ("d " ++ s) (.error (.stepOutOfRange v))
  /-- It is the step of the rule, with or without a plus sign and leading zeros. -/
  | daily {s : String} {n : Nat} (hn : Number.Spells s.toList n) (hpos : 1 ≤ n) (hle : n ≤ 400) :
      Reads ("d " ++ s) (.ok (.daily n))
  /-- The yearly rule needs no second word. -/
  | yearly : Reads "y" (.ok .yearly)
  /-- It may have one, which is ignored. -/
  | yearlyWord {s : String} (hs : ' ' ∉ s.toList) : Reads ("y " ++ s) (.ok .yearly)
  /-- There are no rules with another first word. -/
  | unsupported {text : String} (hgiven : text ≠ "") (hspaces : text.toList.count ' ' ≤ 1)
      (hd : firstWord text ≠ ['d']) (hy : firstWord text ≠ ['y']) : Reads text (.error (.unsupportedRule text))

/-! ### Words -/

/-- A text has one word, or two, or two spaces at least. -/
theorem pieces_cases (text : String) :
    (∃ word, Text.pieces ' ' text.toList = [word]) ∨ (∃ word s, Text.pieces ' ' text.toList = [word, s]) ∨
      2 ≤ text.toList.count ' ' := by
  have hlength := Text.length_pieces ' ' text.toList
  rcases hp : Text.pieces ' ' text.toList with _ | ⟨word, _ | ⟨s, _ | ⟨t, ps⟩⟩⟩
  · exact absurd hp (Text.pieces_ne_nil ' ' _)
  · exact Or.inl ⟨word, rfl⟩
  · exact Or.inr (Or.inl ⟨word, s, rfl⟩)
  · rw [hp] at hlength
    simp only [List.length_cons] at hlength
    exact Or.inr (Or.inr (by omega))

theorem eq_of_pieces (h : Text.pieces ' ' text.toList = ps) : text = String.ofList (Text.join ' ' ps) := by
  rw [← h, Text.join_pieces, String.ofList_toList]

theorem firstWord_of_pieces (h : Text.pieces ' ' text.toList = word :: ps) : firstWord text = word := by
  have hword : ' ' ∉ word := Text.not_mem_of_mem_pieces (h ▸ List.mem_cons_self)
  have htext := Text.join_pieces ' ' text.toList
  show (Text.cutAt ' ' text.toList).1 = word
  rw [← htext, h]
  cases ps with
  | nil => exact congrArg Prod.fst (Text.cutAt_of_not_mem hword)
  | cons q ps => exact congrArg Prod.fst (Text.cutAt_append_cons hword _)

theorem eq_of_twoWords {c : Char} (h : Text.pieces ' ' text.toList = [[c], word]) :
    text = String.ofList [c, ' '] ++ String.ofList word := by
  rw [eq_of_pieces h, ← String.ofList_append]
  rfl

theorem pieces_of_twoWords {c : Char} {s : String} (hc : c ≠ ' ') (hs : ' ' ∉ s.toList) :
    Text.pieces ' ' (String.ofList [c, ' '] ++ s).toList = [[c], s.toList] := by
  rw [String.toList_append, String.toList_ofList]
  exact pieces_twoWords hc hs

/-! ### Reading -/

theorem parse_of_daily {s : String} (hs : ' ' ∉ s.toList) : parse ("d " ++ s) = parseStep ("d " ++ s) s.toList :=
  parse_of_pieces (by simp) (pieces_of_twoWords (by decide) hs)

theorem parse_of_yearlyWord {s : String} (hs : ' ' ∉ s.toList) : parse ("y " ++ s) = .ok .yearly := by
  have hpieces : Text.pieces ' ' ("y " ++ s).toList = [['y'], s.toList] := pieces_of_twoWords (by decide) hs
  unfold parse
  rw [if_neg (by simp), hpieces]
  rfl

theorem parse_of_crowded (hspaces : 2 ≤ text.toList.count ' ') : parse text = .error (.malformedRule text) := by
  have hlength := Text.length_pieces ' ' text.toList
  unfold parse
  rw [if_neg (by rintro rfl; simp at hspaces)]
  split
  case h_1 | h_7 => rfl
  all_goals
    rename_i hp
    rw [hp] at hlength
    simp only [List.length_cons, List.length_nil] at hlength
    omega

theorem parse_of_unsupported (hgiven : text ≠ "") (hspaces : text.toList.count ' ' ≤ 1) (hd : firstWord text ≠ ['d'])
    (hy : firstWord text ≠ ['y']) : parse text = .error (.unsupportedRule text) := by
  unfold parse
  rw [if_neg hgiven]
  split
  · rename_i hp
    exact absurd (firstWord_of_pieces hp) hd
  · rename_i hp
    exact absurd (firstWord_of_pieces hp) hd
  · rename_i hp
    exact absurd (firstWord_of_pieces hp) hy
  · rename_i hp
    exact absurd (firstWord_of_pieces hp) hy
  · rfl
  · rfl
  · rename_i hone htwo
    rcases pieces_cases text with ⟨w, hp⟩ | ⟨w, s, hp⟩ | hcrowded
    · exact absurd hp (hone w)
    · exact absurd hp (htwo w s)
    · omega

theorem Reads.parse_eq (h : Reads text r) : parse text = r := by
  cases h with
  | missing => rfl
  | crowded hspaces => exact parse_of_crowded hspaces
  | stepless => decide
  | unnumbered hs hno =>
    rw [parse_of_daily hs, parseStep, Number.readWord_eq_none_iff.mpr hno]
  | outOfRange hv hfits hout =>
    rw [parse_of_daily hv.space_notMem, parseStep_of_readWord (Number.readWord_eq_some_iff.mpr ⟨hv, hfits⟩)]
    exact if_neg (by omega)
  | @daily s n hn hpos hle =>
    have hfits : Number.fitsWord n = true := by
      unfold Number.fitsWord
      rw [Bool.and_eq_true, decide_eq_true_eq, decide_eq_true_eq]
      omega
    rw [parse_of_daily hn.space_notMem, parseStep_of_readWord (Number.readWord_eq_some_iff.mpr ⟨hn, hfits⟩)]
    exact if_pos (by omega)
  | yearly => decide
  | yearlyWord hs => exact parse_of_yearlyWord hs
  | unsupported hgiven hspaces hd hy => exact parse_of_unsupported hgiven hspaces hd hy

theorem reads_parseStep (hword : ' ' ∉ word) :
    Reads ("d " ++ String.ofList word) (parseStep ("d " ++ String.ofList word) word) := by
  cases hv : Number.readWord word with
  | none =>
    have hno := Number.readWord_eq_none_iff.mp hv
    rw [parseStep, hv]
    rw [← String.toList_ofList (l := word)] at hword hno
    exact .unnumbered hword hno
  | some v =>
    obtain ⟨hspells, hfits⟩ := Number.readWord_eq_some_iff.mp hv
    rw [parseStep_of_readWord hv]
    rw [← String.toList_ofList (l := word)] at hspells
    split
    · rename_i hrange
      have hnat : (v.toNat : Int) = v := by omega
      exact .daily (hnat.symm ▸ hspells) (by omega) (by omega)
    · rename_i hrange
      exact .outOfRange hspells hfits (by omega)

theorem reads_unsupported (hgiven : text ≠ "") (hp : Text.pieces ' ' text.toList = word :: ps) (hlength : ps.length ≤ 1)
    (hd : word ≠ ['d']) (hy : word ≠ ['y']) : Reads text (.error (.unsupportedRule text)) := by
  have hspaces := Text.length_pieces ' ' text.toList
  rw [hp, List.length_cons] at hspaces
  rw [← firstWord_of_pieces hp] at hd hy
  exact .unsupported hgiven (by omega) hd hy

/-- Every text is read as the grammar has it; the cases are the numbers of words and what the first one is. -/
theorem reads_parse (text : String) : Reads text (parse text) := by
  have hspace : ∀ p ∈ Text.pieces ' ' text.toList, ' ' ∉ p := fun p => Text.not_mem_of_mem_pieces
  unfold parse
  split
  · rename_i hempty
    rw [hempty]
    exact .missing
  · rename_i hgiven
    split
    · rename_i hp
      rw [eq_of_pieces hp]
      exact .stepless
    · rename_i word hp
      rw [hp] at hspace
      rw [eq_of_twoWords hp]
      exact reads_parseStep (hspace word (by simp))
    · rename_i hp
      rw [eq_of_pieces hp]
      exact .yearly
    · rename_i word hp
      rw [hp] at hspace
      rw [eq_of_twoWords hp]
      refine .yearlyWord ?_
      rw [String.toList_ofList]
      exact hspace word (by simp)
    · rename_i word hd hy hp
      exact reads_unsupported hgiven hp (Nat.zero_le 1) hd hy
    · rename_i word _ hd hy hp
      exact reads_unsupported hgiven hp (le_refl 1) hd hy
    · rename_i hone htwo
      rcases pieces_cases text with ⟨w, hp⟩ | ⟨w, s, hp⟩ | hcrowded
      · exact absurd hp (hone w)
      · exact absurd hp (htwo w s)
      · exact .crowded hcrowded

/-- The reader of rules decides the grammar: it answers every text with the rule that the text names or with what the
text is refused for. A rule that it answers with is read back from its own text. -/
theorem parse_eq_iff_reads (text : String) :
    (∀ r, parse text = r ↔ Reads text r) ∧ ∀ rule, parse text = .ok rule → parse rule.text = .ok rule := by
  refine ⟨fun r => ⟨?_, Reads.parse_eq⟩, fun rule h => parse_text (readable_of_parse h)⟩
  rintro rfl
  exact reads_parse text

/-- A step may carry a sign and leading zeros, and is written without them; one that a signed word has no room for is no
number, one above 400 is out of range, and a doubled space is one word too many. -/
theorem parse_eq_iff_reads_weekly :
    Reads "d +007" (.ok (.daily 7)) ∧ parse (daily 7).text = .ok (.daily 7) ∧
      Reads "d 9223372036854775808" (.error (.malformedRule "d 9223372036854775808")) ∧
      Reads "d 9223372036854775807" (.error (.stepOutOfRange 9223372036854775807)) ∧
      Reads "d  7" (.error (.malformedRule "d  7")) := by
  have hweekly : parse "d +007" = .ok (.daily 7) := by decide +kernel
  exact ⟨((parse_eq_iff_reads _).1 _).mp hweekly, (parse_eq_iff_reads "d +007").2 _ hweekly,
    ((parse_eq_iff_reads _).1 _).mp (by decide +kernel), ((parse_eq_iff_reads _).1 _).mp (by decide +kernel),
    ((parse_eq_iff_reads _).1 _).mp (by decide +kernel)⟩

end Rule

end Agenda
