import Agenda.Http.Target
import Agenda.Proofs.Http.Percent

/-!
# Targets read back

A target that is written with plain names in its path is read with these names and with the query that was written,
whatever texts the names and values of the query are (`parse_write`).
-/

namespace Agenda.Http

namespace Target

variable {cs : List Char} {c : Char} {path : List String} {query : List (String × String)}

/-- A name and a value of a query as they are written. -/
def writtenPair (pair : String × String) : List Char :=
  percentEncode pair.1 ++ '=' :: percentEncode pair.2

/-- A target as it is written, with the names of its path and the names and values of its query. -/
def write (path : List String) (query : List (String × String)) : String :=
  String.ofList ('/' :: Text.join '/' (path.map String.toList) ++
    if query = [] then [] else '?' :: Text.join '&' (query.map writtenPair))

/-- A name of a path that stands for itself: letters alone. -/
def PlainName (name : String) : Prop :=
  name ≠ "" ∧ ∀ c ∈ name.toList, c.isAlpha = true

/-! ### Characters of a written target -/

theorem isEncoded_of_isAlpha (h : c.isAlpha = true) : IsEncoded c ∧ c ≠ '%' ∧ c ≠ '.' := by
  have hrange : 65 ≤ c.toNat ∧ c.toNat ≤ 90 ∨ 97 ≤ c.toNat ∧ c.toNat ≤ 122 := by
    simpa [Char.isAlpha, Char.isUpper, Char.isLower, UInt32.le_iff_toNat_le] using h
  refine ⟨Or.inl ?_, ?_, ?_⟩
  · simp only [isUnreserved, Bool.or_eq_true, Bool.and_eq_true, decide_eq_true_eq, beq_iff_eq]
    omega
  · rintro rfl
    revert hrange
    decide
  · rintro rfl
    revert hrange
    decide

theorem PlainName.isEncoded {name : String} (h : PlainName name) (hc : c ∈ name.toList) : IsEncoded c :=
  (isEncoded_of_isAlpha (h.2 c hc)).1

theorem mem_writtenPair {pair : String × String} (h : c ∈ writtenPair pair) : IsEncoded c ∨ c = '=' := by
  rcases List.mem_append.mp h with h | h
  · exact Or.inl (isEncoded_of_mem h)
  · rcases List.mem_cons.mp h with rfl | h
    · exact Or.inr rfl
    · exact Or.inl (isEncoded_of_mem h)

theorem mem_pathText (hpath : ∀ name ∈ path, PlainName name)
    (h : c ∈ '/' :: Text.join '/' (path.map String.toList)) : IsEncoded c ∨ c = '/' := by
  rcases List.mem_cons.mp h with rfl | h
  · exact Or.inr rfl
  · rcases Text.mem_join h with rfl | ⟨p, hp, hc⟩
    · exact Or.inr rfl
    · obtain ⟨name, hname, rfl⟩ := List.mem_map.mp hp
      exact Or.inl ((hpath name hname).isEncoded hc)

theorem mem_queryText (h : c ∈ Text.join '&' (query.map writtenPair)) : IsEncoded c ∨ c = '=' ∨ c = '&' := by
  rcases Text.mem_join h with rfl | ⟨p, hp, hc⟩
  · exact Or.inr (Or.inr rfl)
  · obtain ⟨pair, -, rfl⟩ := List.mem_map.mp hp
    rcases mem_writtenPair hc with h | rfl
    · exact Or.inl h
    · exact Or.inr (Or.inl rfl)

/-! ### The query -/

theorem formPair_writtenPair (pair : String × String) : formPair (writtenPair pair) = pair := by
  have hname : '=' ∉ percentEncode pair.1 := fun h => (isEncoded_of_mem h).ne ⟨by decide, by decide⟩ rfl
  unfold formPair writtenPair
  rw [Text.cutAt_append_cons hname]
  simp only [Option.getD_some, formDecode_percentEncode]

theorem formPairs_join (query : List (String × String)) :
    formPairs (Text.join '&' (query.map writtenPair)) = query := by
  cases query with
  | nil => rfl
  | cons pair query =>
    have hsep : ∀ p ∈ (pair :: query).map writtenPair, '&' ∉ p := by
      intro p hp hmem
      obtain ⟨q, -, rfl⟩ := List.mem_map.mp hp
      rcases mem_writtenPair hmem with h | h
      · exact h.ne ⟨by decide, by decide⟩ rfl
      · exact absurd h (by decide)
    have hfull : ∀ p ∈ (pair :: query).map writtenPair, (decide (p ≠ [])) = true := by
      intro p hp
      obtain ⟨q, -, rfl⟩ := List.mem_map.mp hp
      simp [writtenPair]
    unfold formPairs
    rw [Text.pieces_join (by simp) hsep, List.filter_eq_self.mpr hfull, List.map_map]
    conv_rhs => rw [← List.map_id (pair :: query)]
    exact List.map_congr_left fun q _ => formPair_writtenPair q

/-! ### The path -/

theorem plainDots_of_ne {rest : List Char} (hdot : c ≠ '.') (hpercent : c ≠ '%') :
    plainDots (c :: rest) = c :: rest := by
  rw [plainDots.eq_def]
  split
  · rename_i heq
    cases heq
    exact absurd rfl hpercent
  · rename_i heq
    cases heq
    exact absurd rfl hdot
  · rfl

theorem PlainName.plainDots {name : String} (h : PlainName name) :
    ∃ c rest, name.toList = c :: rest ∧ c ≠ '.' ∧ Target.plainDots name.toList = c :: rest := by
  have hne : name.toList ≠ [] := fun heq => h.1 (String.toList_eq_nil_iff.mp heq)
  obtain ⟨c, rest, hlist⟩ := List.exists_cons_of_ne_nil hne
  obtain ⟨-, hpercent, hdot⟩ := isEncoded_of_isAlpha (h.2 c (hlist ▸ List.mem_cons_self))
  exact ⟨c, rest, hlist, hdot, by rw [hlist, plainDots_of_ne hdot hpercent]⟩

theorem withoutDots_of_plain (up : List (List Char)) (h : ∀ name ∈ path, PlainName name) :
    withoutDots up (path.map String.toList) = up.reverse ++ path.map String.toList := by
  induction path generalizing up with
  | nil => simp [withoutDots]
  | cons name path ih =>
    obtain ⟨hname, hpath⟩ := List.forall_mem_cons.mp h
    obtain ⟨c, rest, -, hdot, hplain⟩ := hname.plainDots
    have hone : (c :: rest : List Char) ≠ ['.'] := fun heq => hdot (List.cons.inj heq).1
    have htwo : (c :: rest : List Char) ≠ ['.', '.'] := fun heq => hdot (List.cons.inj heq).1
    rw [List.map_cons, withoutDots]
    simp only [hplain, hone, htwo, if_false, decide_false, Bool.or_self, Bool.and_false, Bool.false_eq_true]
    rw [ih _ hpath, List.reverse_cons, List.append_assoc]
    rfl

theorem percentDecode_of_plain {name : String} (h : PlainName name) :
    String.ofList (percentDecode name.toList) = name := by
  have hascii : ∀ c ∈ name.toList, c.toNat < 0x80 := fun c hc => (h.isEncoded hc).toNat_lt.2
  rw [percentDecode_of_notMem hascii fun hmem => (isEncoded_of_isAlpha (h.2 _ hmem)).2.1 rfl, String.ofList_toList]

/-! ### The target -/

theorem significant_of_lt (h : ∀ c ∈ cs, 0x20 < c.toNat) : significant cs = cs := by
  have hend : cs.reverse.dropWhile (fun c => decide (c.toNat ≤ 0x20)) = cs.reverse := by
    cases hrev : cs.reverse with
    | nil => rfl
    | cons c rest =>
      have hc := h c (List.mem_reverse.mp (hrev ▸ List.mem_cons_self))
      rw [List.dropWhile_cons_of_neg (by simpa using hc)]
  unfold significant
  rw [hend, List.reverse_reverse, List.filter_eq_self]
  intro c hc
  have hlt := h c hc
  have hne : ∀ d : Char, d.toNat ≤ 0x20 → c ≠ d := by
    rintro d hd rfl
    omega
  simp [hne '\t' (by decide), hne '\n' (by decide), hne '\r' (by decide)]

theorem toList_write (path : List String) (query : List (String × String)) :
    (write path query).toList = '/' :: Text.join '/' (path.map String.toList) ++
      if query = [] then [] else '?' :: Text.join '&' (query.map writtenPair) :=
  String.toList_ofList

theorem mem_write (hpath : ∀ name ∈ path, PlainName name) (h : c ∈ (write path query).toList) :
    IsEncoded c ∨ c = '/' ∨ c = '?' ∨ c = '=' ∨ c = '&' := by
  rw [toList_write] at h
  rcases List.mem_append.mp h with h | h
  · have := mem_pathText hpath h
    tauto
  · split at h
    · cases h
    · rcases List.mem_cons.mp h with rfl | h
      · tauto
      · have := mem_queryText h
        tauto

theorem cutAt_write (hpath : ∀ name ∈ path, PlainName name) (query : List (String × String)) :
    ∃ written, Text.cutAt '?' (write path query).toList = ('/' :: Text.join '/' (path.map String.toList), written) ∧
      formPairs (written.getD []) = query := by
  have hmark : '?' ∉ '/' :: Text.join '/' (path.map String.toList) := by
    intro h
    rcases mem_pathText hpath h with h | h
    · exact h.ne ⟨by decide, by decide⟩ rfl
    · exact absurd h (by decide)
  rw [toList_write]
  split
  · rename_i hnone
    subst hnone
    rw [List.append_nil, Text.cutAt_of_not_mem hmark]
    exact ⟨none, rfl, rfl⟩
  · rw [Text.cutAt_append_cons hmark]
    exact ⟨_, rfl, formPairs_join query⟩

theorem pieces_pathText (hne : path ≠ []) (hpath : ∀ name ∈ path, PlainName name) :
    Text.pieces '/' ('/' :: Text.join '/' (path.map String.toList)) = [] :: path.map String.toList := by
  have hsep : ∀ p ∈ path.map String.toList, '/' ∉ p := by
    intro p hp hmem
    obtain ⟨name, hname, rfl⟩ := List.mem_map.mp hp
    exact ((hpath name hname).isEncoded hmem).ne ⟨by decide, by decide⟩ rfl
  have hcut := Text.pieces_append_cons (List.not_mem_nil (a := '/')) (Text.join '/' (path.map String.toList))
  rw [List.nil_append, Text.pieces_join (by simpa using hne) hsep] at hcut
  exact hcut

/-- Reading gives back the path and the query that were written. -/
theorem parse_write (hne : path ≠ []) (hpath : ∀ name ∈ path, PlainName name) (query : List (String × String)) :
    parse (write path query) = { segments := path, endsWithSlash := false, query } := by
  have hsignificant : significant (write path query).toList = (write path query).toList := by
    refine significant_of_lt fun c hc => ?_
    rcases mem_write hpath hc with h | rfl | rfl | rfl | rfl
    · exact h.toNat_lt.1
    all_goals decide
  have hhash : '#' ∉ (write path query).toList := by
    intro h
    rcases mem_write hpath h with h | h | h | h | h
    · exact h.ne ⟨by decide, by decide⟩ rfl
    all_goals exact absurd h (by decide)
  have hslash : ('/' :: Text.join '/' (path.map String.toList)).map (fun c => if c = '\\' then '/' else c) =
      '/' :: Text.join '/' (path.map String.toList) := by
    conv_rhs => rw [← List.map_id ('/' :: Text.join '/' (path.map String.toList))]
    refine List.map_congr_left fun c hc => if_neg ?_
    rintro rfl
    rcases mem_pathText hpath hc with h | h
    · exact h.ne ⟨by decide, by decide⟩ rfl
    · exact absurd h (by decide)
  have hsegments : withoutDots [] (path.map String.toList) = path.map String.toList := withoutDots_of_plain [] hpath
  have hfull : ∀ p ∈ path.map String.toList, p ≠ [] := by
    intro p hp
    obtain ⟨name, hname, rfl⟩ := List.mem_map.mp hp
    exact fun heq => (hpath name hname).1 (String.toList_eq_nil_iff.mp heq)
  obtain ⟨written, hcut, hquery⟩ := cutAt_write hpath query
  unfold parse
  rw [hsignificant, Text.cutAt_of_not_mem hhash]
  simp only [hcut, hslash, pieces_pathText hne hpath, List.tail_cons, hsegments, hquery]
  congr 1
  · rw [List.filter_eq_self.mpr fun p hp => decide_eq_true (hfull p hp), List.map_map]
    conv_rhs => rw [← List.map_id path]
    exact List.map_congr_left fun name hname => percentDecode_of_plain (hpath name hname)
  · rw [beq_eq_false_iff_ne]
    intro hlast
    exact hfull [] (List.mem_of_getLast? hlast) rfl

/-! ### Values of the query -/

section Values

variable {segments : List String} {endsWithSlash : Bool} {name value : String}

theorem value?_cons : value? { segments, endsWithSlash, query := (name, value) :: query } name = some value := by
  simp [value?]

theorem value?_cons_of_ne {other : String} (h : other ≠ name) :
    value? { segments, endsWithSlash, query := (other, value) :: query } name =
      value? { segments, endsWithSlash, query } name := by
  simp [value?, h]

end Values

end Target

end Agenda.Http
