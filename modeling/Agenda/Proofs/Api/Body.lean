import Agenda.Api.Body
import Agenda.Proofs.Json.Exact
import Agenda.Proofs.Text.Utf8

/-!
# Bodies that make and bodies that change a task

The reader of bodies that change a task is the stricter one: it asks that every token names a value and that nothing is
nested too deep. Whatever it takes the other reader takes for the same fields, and where a body has none but the known
members and at most one number, the two readers take the same bodies (`Body.newTask?_of_changedTask?`,
`Body.readers_agree`).

The bytes of a text are read as that text (`Body.readable_toUTF8`). Any bytes between quotes are read as a string to its
end, which names a text just if they are the bytes of that text (`Body.readString_bytes`).
-/

namespace Agenda

/-! ### Nesting -/

namespace Json.Token

variable {ts : List Token}

/-- The token neither opens nor closes an array or object. -/
def IsFlat (t : Token) : Prop :=
  t ≠ .openBrace ∧ t ≠ .closeBrace ∧ t ≠ .openBracket ∧ t ≠ .closeBracket

theorem foldl_nestingStep_of_flat (h : ∀ t ∈ ts, t.IsFlat) (depths : Nat × Nat) :
    ts.foldl nestingStep depths = depths := by
  induction ts with
  | nil => rfl
  | cons t ts ih =>
    obtain ⟨⟨hopen, hclose, hopenBracket, hcloseBracket⟩, hts⟩ := List.forall_mem_cons.mp h
    have hstep : nestingStep depths t = depths := by
      cases t with
      | openBrace => exact absurd rfl hopen
      | closeBrace => exact absurd rfl hclose
      | openBracket => exact absurd rfl hopenBracket
      | closeBracket => exact absurd rfl hcloseBracket
      | comma | colon | null | bool _ | number _ | string _ => rfl
    rw [List.foldl_cons, hstep, ih hts]

theorem nesting_of_flat (h : ∀ t ∈ ts, t.IsFlat) : nesting (.openBrace :: ts ++ [.closeBrace]) = 1 := by
  unfold nesting
  rw [List.cons_append, List.foldl_cons, List.foldl_append, foldl_nestingStep_of_flat h]
  rfl

end Json.Token

/-! ### Tokens of members -/

namespace Json.Value

variable {ms : List (Option String × Value)} {m : Option String × Value} {t : Token}

theorem string_mem_memberTokens (hm : m ∈ ms) : .string m.1 ∈ memberTokens ms := by
  induction ms with
  | nil => cases hm
  | cons n ms ih =>
    by_cases hnil : ms = []
    · subst hnil
      rw [List.mem_singleton.mp hm]
      exact List.mem_cons_self
    · rw [memberTokens_cons n.1 n.2 hnil]
      rcases List.mem_cons.mp hm with rfl | hm
      · exact List.mem_cons_self
      · simp [ih hm]

theorem mem_memberTokens (h : t ∈ memberTokens ms) :
    t = .colon ∨ t = .comma ∨ ∃ m ∈ ms, t = .string m.1 ∨ t ∈ m.2.tokens := by
  induction ms with
  | nil => cases h
  | cons n ms ih =>
    by_cases hnil : ms = []
    · subst hnil
      rcases List.mem_cons.mp h with rfl | h
      · exact Or.inr (Or.inr ⟨n, List.mem_cons_self, Or.inl rfl⟩)
      · rcases List.mem_cons.mp h with rfl | h
        · exact Or.inl rfl
        · exact Or.inr (Or.inr ⟨n, List.mem_cons_self, Or.inr h⟩)
    · rw [memberTokens_cons n.1 n.2 hnil] at h
      simp only [List.mem_cons, List.mem_append] at h
      rcases h with rfl | rfl | h | rfl | h
      · exact Or.inr (Or.inr ⟨n, List.mem_cons_self, Or.inl rfl⟩)
      · exact Or.inl rfl
      · exact Or.inr (Or.inr ⟨n, List.mem_cons_self, Or.inr h⟩)
      · exact Or.inr (Or.inl rfl)
      · rcases ih h with rfl | rfl | ⟨m, hm, hm'⟩
        · exact Or.inl rfl
        · exact Or.inr (Or.inl rfl)
        · exact Or.inr (Or.inr ⟨m, List.mem_cons_of_mem n hm, hm'⟩)

end Json.Value

namespace Api.Body

open Json (Token Value)

variable {body id name s : String} {draft : Draft} {members : List (Option String × Value)} {m : Option String × Value}
  {t : Token}

/-! ### Bytes as a text -/

theorem readable_toUTF8 (s : String) : readable s.toUTF8 = s := by
  unfold readable
  have hwritten : (s.toList.map some).flatMap written = s.toList := by
    rw [List.flatMap_map]
    exact List.flatMap_singleton' s.toList
  rw [Text.Utf8.bytes_eq_encode, Text.Utf8.scan_encode, hwritten, String.ofList_toList]

theorem exists_map_some {us : List (Option Char)} (h : none ∉ us) : ∃ cs : List Char, us = cs.map some := by
  induction us with
  | nil => exact ⟨[], rfl⟩
  | cons u us ih =>
    obtain ⟨hu, hus⟩ := List.ne_and_not_mem_of_not_mem_cons h
    obtain ⟨c, rfl⟩ := Option.ne_none_iff_exists'.mp hu.symm
    obtain ⟨cs, rfl⟩ := ih hus
    exact ⟨c :: cs, rfl⟩

theorem stringChar_of_plain {c : Char} (hprint : 0x20 ≤ c.toNat) (hquote : c ≠ '"') (hslash : c ≠ '\\') :
    Value.stringChar c = [c] := by
  have hne : ∀ d : Char, d.toNat < 0x20 → c ≠ d := by
    rintro d hd rfl
    omega
  unfold Value.stringChar
  rw [if_neg hquote, if_neg hslash, if_neg (hne _ (by decide)), if_neg (hne _ (by decide)), if_neg (hne _ (by decide)),
    if_neg (hne _ (by decide)), if_neg (hne _ (by decide)), if_neg (by omega)]

theorem readPieces_lost (acc : List Token.Piece) (rest : List Char) :
    Token.readPieces acc (lost ++ rest) =
      Token.readPieces (.numbered 0xD800 :: .numbered 0xD800 :: .char '?' :: acc) rest := by
  simp [lost, Token.readPieces, Token.hexUnit?, Number.hexValue?]

theorem joinPieces_lost (done : List Char) (ps : List Token.Piece) :
    Token.joinPieces done (.char '?' :: .numbered 0xD800 :: .numbered 0xD800 :: ps) = none := by
  simp [Token.joinPieces, Token.isLeading, Token.isTrailing]

/-- A string in which bytes are lost is read to its end and names no text; any other names its characters. -/
theorem readPieces_written {us : List (Option Char)}
    (hplain : ∀ c, some c ∈ us → 0x20 ≤ c.toNat ∧ c ≠ '"' ∧ c ≠ '\\') (acc : List Token.Piece) (rest : List Char) :
    ∃ ps, Token.readPieces acc (us.flatMap written ++ '"' :: rest) = some (acc.reverse ++ ps, rest) ∧
      ∀ done, (∀ cs, us = cs.map some → Token.joinPieces done ps = some (done.reverse ++ cs)) ∧
        (none ∈ us → Token.joinPieces done ps = none) := by
  induction us generalizing acc with
  | nil => exact ⟨[], by simp [Token.readPieces], fun done => by simp [Token.joinPieces]⟩
  | cons u us ih =>
    have hrest : ∀ c, some c ∈ us → 0x20 ≤ c.toNat ∧ c ≠ '"' ∧ c ≠ '\\' :=
      fun c hc => hplain c (List.mem_cons_of_mem u hc)
    rw [List.flatMap_cons, List.append_assoc]
    cases u with
    | none =>
      obtain ⟨ps, hps, -⟩ := ih hrest (.numbered 0xD800 :: .numbered 0xD800 :: .char '?' :: acc)
      refine ⟨.char '?' :: .numbered 0xD800 :: .numbered 0xD800 :: ps, ?_, fun done => ⟨?_, fun _ => joinPieces_lost _ _⟩⟩
      · rw [written, readPieces_lost, hps]
        simp
      · intro cs hcs
        have hnone : none ∈ cs.map some := hcs ▸ List.mem_cons_self
        simp at hnone
    | some c =>
      obtain ⟨hprint, hquote, hslash⟩ := hplain c List.mem_cons_self
      obtain ⟨p, hread, hjoin⟩ := Token.exists_piece c
      obtain ⟨ps, hps, hus⟩ := ih hrest (p :: acc)
      rw [stringChar_of_plain hprint hquote hslash] at hread
      refine ⟨p :: ps, ?_, fun done => ⟨?_, fun hnone => ?_⟩⟩
      · rw [written, hread, hps]
        simp
      · intro cs hcs
        obtain ⟨d, ds, rfl, hd, hds⟩ := List.map_eq_cons_iff.mp hcs.symm
        cases hd
        rw [hjoin, (hus _).1 ds hds.symm]
        simp
      · rw [hjoin]
        exact (hus _).2 (by simpa using hnone)

/-- Bytes between quotes are read as the string of the text that they are; if they are none, they are passed over, and
the string names no text. What follows is read by itself. -/
theorem readString_bytes {bs : List Nat} (hplain : ∀ b ∈ bs, 0x20 ≤ b ∧ b ≠ 0x22 ∧ b ≠ 0x5C) (rest : List Nat) :
    ∃ s, Token.readString ((Text.Utf8.scan (bs ++ 0x22 :: rest)).flatMap written) =
        some (s, (Text.Utf8.scan rest).flatMap written) ∧
      ∀ cs, s = some (String.ofList cs) ↔ Text.Utf8.encode cs = bs := by
  have hchars : ∀ c, some c ∈ Text.Utf8.scan bs → 0x20 ≤ c.toNat ∧ c ≠ '"' ∧ c ≠ '\\' := by
    intro c hc
    by_cases hascii : c.toNat < 0x80
    · have hone : c.toNat ∈ Text.Utf8.encodeChar c := by simp [Text.Utf8.encodeChar, hascii]
      obtain ⟨hprint, hquote, hslash⟩ := hplain _ (Text.Utf8.mem_of_scans (Text.Utf8.scans_scan bs) hc hone)
      refine ⟨hprint, ?_, ?_⟩
      · rintro rfl
        exact hquote rfl
      · rintro rfl
        exact hslash rfl
    · refine ⟨by omega, ?_, ?_⟩ <;> rintro rfl <;> exact hascii (by decide)
  obtain ⟨ps, hps, hjoin⟩ := readPieces_written hchars [] ((Text.Utf8.scan rest).flatMap written)
  obtain ⟨hnamed, hlost⟩ := hjoin []
  refine ⟨(Token.joinPieces [] ps).map String.ofList, ?_, fun cs => ?_⟩
  · rw [Text.Utf8.scan_append (by decide), List.flatMap_append, List.flatMap_cons]
    unfold Token.readString
    show (Token.readPieces [] ((Text.Utf8.scan bs).flatMap written ++ '"' :: (Text.Utf8.scan rest).flatMap written)).map
      _ = _
    rw [hps]
    rfl
  · rw [← Text.Utf8.scan_eq_map_some_iff]
    generalize Text.Utf8.scan bs = us at hnamed hlost
    by_cases hnone : none ∈ us
    · rw [hlost hnone]
      refine iff_of_false nofun ?_
      rintro rfl
      simp at hnone
    · obtain ⟨ds, rfl⟩ := exists_map_some hnone
      rw [hnamed ds rfl]
      simp [String.ofList_inj, List.map_inj_right]

/-! ### Fields -/

theorem text_of_field? (h : field? members name = some s) (hm : m ∈ members) (hname : m.1 = some name) :
    ∃ s, m.2 = .string (some s) := by
  have hfound : m ∈ members.filter (·.1 == some name) := List.mem_filter.mpr ⟨hm, beq_iff_eq.mpr hname⟩
  unfold field? at h
  split at h
  · rename_i hnone
    rw [hnone] at hfound
    cases hfound
  · rename_i s hone
    rw [hone] at hfound
    exact ⟨s, congrArg Prod.snd (List.mem_singleton.mp hfound)⟩
  · cases h

theorem exists_field? (hone : (members.filter (·.1 == some name)).length ≤ 1)
    (htext : ∀ m ∈ members, m.1 = some name → ∃ s, m.2 = .string (some s)) : ∃ s, field? members name = some s := by
  unfold field?
  rcases hfound : members.filter (·.1 == some name) with _ | ⟨⟨n, v⟩, _ | ⟨m', ms⟩⟩
  · exact ⟨"", by rw [hfound]⟩
  · obtain ⟨hm, hname⟩ := List.mem_filter.mp (hfound ▸ List.mem_cons_self : (n, v) ∈ members.filter (·.1 == some name))
    obtain ⟨s, rfl⟩ : ∃ s, v = .string (some s) := htext _ hm (beq_iff_eq.mp hname)
    exact ⟨s, by rw [hfound]⟩
  · rw [hfound] at hone
    exact absurd hone (by simp)

theorem draftOfMembers?_eq_some_iff : draftOfMembers? members = some draft ↔
    field? members "date" = some draft.date ∧ field? members "title" = some draft.title ∧
      field? members "comment" = some draft.comment ∧ field? members "repeat" = some draft.repeats := by
  unfold draftOfMembers?
  constructor
  · intro h
    split at h
    · rename_i hdate htitle hcomment hrepeat
      cases h
      exact ⟨hdate, htitle, hcomment, hrepeat⟩
    · cases h
  · rintro ⟨hdate, htitle, hcomment, hrepeat⟩
    simp only [hdate, htitle, hcomment, hrepeat]

/-! ### Readers -/

theorem newTask?_of_parse (h : Value.parse body.toList = some (.object members)) :
    newTask? body = if members.all (·.1.isSome) then draftOfMembers? members else none := by
  unfold newTask?
  rw [h]
  rfl

theorem changedTask?_eq_some_iff : changedTask? body = some (id, draft) ↔
    ∃ members, Value.parse body.toList = some (.object members) ∧
      (∀ t ∈ (Value.object members).tokens, t.namesValue = true) ∧
      Token.nesting (Value.object members).tokens ≤ deepestNesting ∧
      field? members "id" = some id ∧ draftOfMembers? members = some draft := by
  unfold changedTask? Value.parse
  constructor
  · intro h
    split at h
    · cases h
    · rename_i tokens hchars
      split at h
      · rename_i hstrict
        rw [Bool.and_eq_true, List.all_eq_true, decide_eq_true_eq] at hstrict
        obtain ⟨v, hv, hdraft⟩ := Option.bind_eq_some_iff.mp h
        rw [hchars, Option.bind_some]
        unfold numberedDraft? at hdraft
        split at hdraft
        · rename_i members
          split at hdraft
          · rename_i hid hmembers
            cases hdraft
            rw [Value.ofTokens_eq_some_iff.mp hv] at hstrict
            exact ⟨members, hv, hstrict.1, hstrict.2, hid, hmembers⟩
          · cases hdraft
        · cases hdraft
      · cases h
  · rintro ⟨members, hparse, hvalues, hnesting, hid, hmembers⟩
    obtain ⟨tokens, hchars, hv⟩ := Option.bind_eq_some_iff.mp hparse
    obtain rfl := Value.ofTokens_eq_some_iff.mp hv
    have hstrict : (Value.object members).tokens.all Token.namesValue = true := List.all_eq_true.mpr hvalues
    simp only [hchars, hstrict, decide_eq_true hnesting, Bool.and_self, if_true, hv, Option.bind_some, numberedDraft?,
      hid, hmembers]

/-- A body that changes a task has the fields of one that makes a task. -/
theorem newTask?_of_changedTask? (h : changedTask? body = some (id, draft)) : newTask? body = some draft := by
  obtain ⟨members, hparse, hvalues, -, -, hdraft⟩ := changedTask?_eq_some_iff.mp h
  have hnames : members.all (·.1.isSome) = true := by
    rw [List.all_eq_true]
    intro m hm
    refine hvalues (.string m.1) ?_
    rw [Value.tokens]
    exact List.mem_cons_of_mem _ (List.mem_append_left _ (Value.string_mem_memberTokens hm))
  rw [newTask?_of_parse hparse, if_pos hnames, hdraft]

/-! ### Bodies with the known members -/

/-- The members that bodies are read for. -/
def knownNames : List String :=
  ["id", "date", "title", "comment", "repeat"]

/-- Every member is one that bodies are read for. -/
def Known (members : List (Option String × Value)) : Prop :=
  ∀ m ∈ members, ∃ name ∈ knownNames, m.1 = some name

theorem Known.text_of_fields (h : Known members) (hdraft : draftOfMembers? members = some draft)
    (hid : field? members "id" = some id) (hm : m ∈ members) : ∃ s, m.2 = .string (some s) := by
  obtain ⟨hdate, htitle, hcomment, hrepeat⟩ := draftOfMembers?_eq_some_iff.mp hdraft
  obtain ⟨name, hknown, hname⟩ := h m hm
  simp only [knownNames, List.mem_cons, List.not_mem_nil, or_false] at hknown
  rcases hknown with rfl | rfl | rfl | rfl | rfl
  · exact text_of_field? hid hm hname
  · exact text_of_field? hdate hm hname
  · exact text_of_field? htitle hm hname
  · exact text_of_field? hcomment hm hname
  · exact text_of_field? hrepeat hm hname

/-- Where all members are texts, nothing but texts, colons and commas stands between the braces. -/
theorem Known.mem_memberTokens (h : Known members) (htext : ∀ m ∈ members, ∃ s, m.2 = .string (some s))
    (ht : t ∈ Value.memberTokens members) : t = .colon ∨ t = .comma ∨ ∃ s, t = .string (some s) := by
  rcases Value.mem_memberTokens ht with rfl | rfl | ⟨m, hm, rfl | ht⟩
  · exact Or.inl rfl
  · exact Or.inr (Or.inl rfl)
  · obtain ⟨name, -, hname⟩ := h m hm
    exact Or.inr (Or.inr ⟨name, congrArg Token.string hname⟩)
  · obtain ⟨s, hs⟩ := htext m hm
    rw [hs] at ht
    exact Or.inr (Or.inr ⟨s, List.mem_singleton.mp ht⟩)

/-- A body with the known members that makes a task changes one if there is one number at most in it, as a text. -/
theorem Known.changedTask?_of_newTask? (h : Known members) (hparse : Value.parse body.toList = some (.object members))
    (hid : field? members "id" = some id) (hnew : newTask? body = some draft) :
    changedTask? body = some (id, draft) := by
  have hnames : members.all (·.1.isSome) = true := by
    rw [List.all_eq_true]
    intro m hm
    obtain ⟨name, -, hname⟩ := h m hm
    rw [hname]
    rfl
  rw [newTask?_of_parse hparse, if_pos hnames] at hnew
  have htext : ∀ m ∈ members, ∃ s, m.2 = .string (some s) := fun m hm => h.text_of_fields hnew hid hm
  have hplain : ∀ t ∈ Value.memberTokens members, t = .colon ∨ t = .comma ∨ ∃ s, t = .string (some s) :=
    fun t ht => h.mem_memberTokens htext ht
  refine changedTask?_eq_some_iff.mpr ⟨members, hparse, fun t ht => ?_, ?_, hid, hnew⟩
  · rw [Value.tokens, List.mem_append, List.mem_cons, List.mem_singleton] at ht
    rcases ht with (rfl | ht) | rfl
    · rfl
    · rcases hplain t ht with rfl | rfl | ⟨s, rfl⟩ <;> rfl
    · rfl
  · have hflat : ∀ t ∈ Value.memberTokens members, t.IsFlat := by
      intro t ht
      rcases hplain t ht with rfl | rfl | ⟨s, rfl⟩ <;> exact ⟨nofun, nofun, nofun, nofun⟩
    rw [Value.tokens, Token.nesting_of_flat hflat]
    exact of_decide_eq_true rfl

/-- A body that changes a task has the fields of one that makes a task. Of the bodies that are objects with none but
the known members, the number among them at most once and then as a text, the same ones change a task and make one. -/
theorem readers_agree (body : String) :
    (∀ id draft, changedTask? body = some (id, draft) → newTask? body = some draft) ∧
    ∀ members, Value.parse body.toList = some (.object members) →
      (∀ m ∈ members, m.1 ∈ [some "id", some "date", some "title", some "comment", some "repeat"]) →
      (members.filter (·.1 == some "id")).length ≤ 1 →
      (∀ m ∈ members, m.1 = some "id" → ∃ s, m.2 = .string (some s)) →
      ((changedTask? body).isSome ↔ (newTask? body).isSome) := by
  refine ⟨fun _ _ => newTask?_of_changedTask?, fun members hparse hknown hone htext => ?_⟩
  have hknown : Known members := by
    intro m hm
    obtain ⟨name, hname, heq⟩ := List.mem_map.mp (show m.1 ∈ knownNames.map some from hknown m hm)
    exact ⟨name, hname, heq.symm⟩
  obtain ⟨id, hid⟩ := exists_field? hone htext
  simp only [Option.isSome_iff_exists]
  constructor
  · rintro ⟨⟨id, draft⟩, hchanged⟩
    exact ⟨draft, newTask?_of_changedTask? hchanged⟩
  · rintro ⟨draft, hnew⟩
    exact ⟨(id, draft), hknown.changedTask?_of_newTask? hparse hid hnew⟩

/-- A body with a member that is not known, and with an escape in the name of one that is. -/
def escaped : String :=
  "\x7b\"repeat\": \"d 7\", \"tags\": [1.5, \x7b\"a\": null\x7d], \"\\u0069d\": \"7\", \"title\": \"call\"\x7d"

/-- A body with half a surrogate pair in a member that is not known. -/
def halved : String :=
  "\x7b\"title\": \"call\", \"tag\": \"\\ud800\"\x7d"

/-- The members of a body that changes the title of a task. -/
def retitled : List (Option String × Value) :=
  [(some "title", .ofString "call"), (some "id", .ofString "7")]

/-- The escaped body is read for the same fields by both readers. The halved one makes a task, and changes none: it
holds a member that is not known. The one that changes a title, with known members alone, does both. -/
theorem readers_agree_escaped :
    changedTask? escaped = some ("7", { title := "call", repeats := "d 7" }) ∧
      newTask? escaped = some { title := "call", repeats := "d 7" } ∧
      newTask? halved = some { title := "call" } ∧ changedTask? halved = none ∧
      Value.parse (Value.object retitled).text.toList = some (.object retitled) ∧
      (newTask? (Value.object retitled).text).isSome ∧ (changedTask? (Value.object retitled).text).isSome := by
  have hchanged : changedTask? escaped = some ("7", { title := "call", repeats := "d 7" }) := by decide +kernel
  have hnew : (newTask? (Value.object retitled).text).isSome := by decide +kernel
  have hparse : Value.parse (Value.object retitled).text.toList = some (.object retitled) := by
    refine Value.parse_text ?_
    simp [Token.Numberless, retitled, Value.tokens, Value.memberTokens, Value.ofString]
  obtain ⟨-, hagree⟩ := readers_agree (Value.object retitled).text
  refine ⟨hchanged, (readers_agree escaped).1 _ _ hchanged, by decide +kernel, by decide +kernel, hparse, hnew,
    (hagree retitled hparse ?_ (by decide) ?_).mpr hnew⟩
  · simp [retitled]
  · simp [retitled, Value.ofString]

end Api.Body

end Agenda
