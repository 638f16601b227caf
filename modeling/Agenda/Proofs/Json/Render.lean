import Agenda.Json.Value
import Mathlib

/-!
# Written values read back

A value is written as the sequence of its tokens, each of which is read back in front of whatever follows it, and the
tokens build the value again (`parse_text`). Numbers are left out: where one ends depends on what follows, and nothing
that is written to clients holds one.
-/

namespace Agenda.Json

namespace Token

variable {t : Token} {ts : List Token}

/-! ### Strings -/

theorem hexUnit?_control : ∀ n < 0x20, hexUnit? '0' '0' (Nat.digitChar (n / 16)) (Nat.digitChar (n % 16)) = some n := by
  decide

theorem joinPieces_numbered (acc : List Char) (ps : List Piece) {c : Char} (h : c.toNat < 0x20) :
    joinPieces acc (.numbered c.toNat :: ps) = joinPieces (c :: acc) ps := by
  have hleading : isLeading c.toNat = false := by
    simp [isLeading]
    omega
  have htrailing : isTrailing c.toNat = false := by
    simp [isTrailing]
    omega
  rw [joinPieces.eq_def]
  simp only [hleading, htrailing, Bool.false_eq_true, if_false, Char.ofNat_toNat]

/-- A character is written as one part of a string, which is read as that character. -/
theorem exists_piece (c : Char) : ∃ p : Piece,
    (∀ acc rest, readPieces acc (Value.stringChar c ++ rest) = readPieces (p :: acc) rest) ∧
      ∀ acc ps, joinPieces acc (p :: ps) = joinPieces (c :: acc) ps := by
  have hescaped : ∀ d : Char, d ≠ 'u' → escapedChar? d = some c → ∀ acc rest,
      readPieces acc (['\\', d] ++ rest) = readPieces (.char c :: acc) rest := by
    intro d hd hc acc rest
    rw [List.cons_append, List.cons_append, List.nil_append, readPieces, hc]
    rintro a b c d cs heq -
    exact hd heq
  unfold Value.stringChar
  split_ifs with hquote hslash hb hf hn hr ht hcontrol
  · exact ⟨.char c, hescaped '"' (by decide) (by subst hquote; rfl), fun _ _ => rfl⟩
  · exact ⟨.char c, hescaped '\\' (by decide) (by subst hslash; rfl), fun _ _ => rfl⟩
  · exact ⟨.char c, hescaped 'b' (by decide) (by subst hb; rfl), fun _ _ => rfl⟩
  · exact ⟨.char c, hescaped 'f' (by decide) (by subst hf; rfl), fun _ _ => rfl⟩
  · exact ⟨.char c, hescaped 'n' (by decide) (by subst hn; rfl), fun _ _ => rfl⟩
  · exact ⟨.char c, hescaped 'r' (by decide) (by subst hr; rfl), fun _ _ => rfl⟩
  · exact ⟨.char c, hescaped 't' (by decide) (by subst ht; rfl), fun _ _ => rfl⟩
  · refine ⟨.numbered c.toNat, fun acc rest => ?_, fun acc ps => joinPieces_numbered acc ps hcontrol⟩
    simp only [List.cons_append, List.nil_append]
    rw [readPieces, hexUnit?_control _ hcontrol]
  · refine ⟨.char c, fun acc rest => ?_, fun _ _ => rfl⟩
    rw [List.singleton_append, readPieces.eq_def]
    split
    · rename_i heq
      cases heq
    · rename_i heq
      cases heq
      exact absurd rfl hquote
    · rename_i heq
      cases heq
      exact absurd rfl hslash
    · rename_i heq
      cases heq
      exact absurd rfl hslash
    · rename_i heq
      cases heq
      simp [hslash, hcontrol]

theorem readPieces_string (cs : List Char) (acc : List Piece) (rest : List Char) :
    ∃ ps, readPieces acc (cs.flatMap Value.stringChar ++ '"' :: rest) = some (acc.reverse ++ ps, rest) ∧
      ∀ done, joinPieces done ps = some (done.reverse ++ cs) := by
  induction cs generalizing acc with
  | nil => exact ⟨[], by simp [readPieces], fun done => by simp [joinPieces]⟩
  | cons c cs ih =>
    obtain ⟨p, hread, hjoin⟩ := exists_piece c
    obtain ⟨ps, hps, hcs⟩ := ih (p :: acc)
    refine ⟨p :: ps, ?_, fun done => ?_⟩
    · rw [List.flatMap_cons, List.append_assoc, hread, hps, List.reverse_cons, List.append_assoc]
      rfl
    · rw [hjoin, hcs, List.reverse_cons, List.append_assoc]
      rfl

theorem readString_renderString (s : Option String) (rest : List Char) :
    ∃ cs, Value.renderString s ++ rest = '"' :: cs ∧ readString cs = some (s, rest) := by
  cases s with
  | none => exact ⟨_, rfl, by simp [readString, readPieces, hexUnit?, Number.hexValue?, joinPieces, isLeading]⟩
  | some s =>
    obtain ⟨ps, hps, hjoin⟩ := readPieces_string s.toList [] rest
    refine ⟨s.toList.flatMap Value.stringChar ++ '"' :: rest, by simp [Value.renderString], ?_⟩
    have hjoin := hjoin []
    rw [List.reverse_nil, List.nil_append] at hps hjoin
    unfold readString
    rw [hps]
    show some ((joinPieces [] ps).map String.ofList, rest) = _
    rw [hjoin, Option.map_some, String.ofList_toList]

/-! ### Sequences of tokens -/

/-- A token as it is written. -/
def chars : Token → List Char
  | openBrace => ['\x7b']
  | closeBrace => ['\x7d']
  | openBracket => ['[']
  | closeBracket => [']']
  | comma => [',']
  | colon => [':']
  | null => ['n', 'u', 'l', 'l']
  | bool true => ['t', 'r', 'u', 'e']
  | bool false => ['f', 'a', 'l', 's', 'e']
  | number n => n.chars
  | string s => Value.renderString s

/-- No token is a number. -/
def Numberless (ts : List Token) : Prop :=
  ∀ t ∈ ts, ∀ n, t ≠ .number n

theorem read_chars (h : ∀ n, t ≠ .number n) (rest : List Char) : read (t.chars ++ rest) = some (t, rest) := by
  cases t with
  | openBrace | closeBrace | openBracket | closeBracket | comma | colon => rfl
  | null => simp [chars, read, afterName]
  | bool b => cases b <;> simp [chars, read, afterName]
  | number n => exact absurd rfl (h n)
  | string s =>
    obtain ⟨cs, hcs, hread⟩ := readString_renderString s rest
    show read (Value.renderString s ++ rest) = _
    rw [hcs]
    show (readString cs).map _ = _
    rw [hread]
    rfl

theorem exists_cons_of_chars (h : ∀ n, t ≠ .number n) : ∃ c cs, t.chars = c :: cs ∧ isSpace c = false := by
  cases t with
  | openBrace | closeBrace | openBracket | closeBracket | comma | colon | null => exact ⟨_, _, rfl, by decide⟩
  | bool b => cases b <;> exact ⟨_, _, rfl, by decide⟩
  | number n => exact absurd rfl (h n)
  | string s => cases s <;> exact ⟨_, _, rfl, by decide⟩

theorem readAll_chars (acc : List Token) {n : Nat} (h : Numberless ts) (hn : ts.length ≤ n) :
    readAll acc n (ts.flatMap chars) = some (acc.reverse ++ ts) := by
  induction ts generalizing acc n with
  | nil => cases n <;> simp [readAll]
  | cons t ts ih =>
    obtain ⟨ht, hts⟩ := List.forall_mem_cons.mp h
    obtain ⟨n, rfl⟩ := Nat.exists_eq_add_of_le' (Nat.one_le_of_lt hn)
    obtain ⟨c, cs, hchars, hspace⟩ := exists_cons_of_chars ht
    have hread := read_chars ht (ts.flatMap chars)
    have hstart : (t.chars ++ ts.flatMap chars).dropWhile isSpace = t.chars ++ ts.flatMap chars := by
      rw [hchars, List.cons_append, List.dropWhile_cons_of_neg (by simp [hspace])]
    rw [List.flatMap_cons, readAll, hstart]
    split
    · rename_i heq
      rw [hchars] at heq
      cases heq
    · rw [hread]
      simp only
      rw [ih (t :: acc) hts (Nat.le_of_succ_le_succ hn), List.reverse_cons, List.append_assoc]
      rfl

theorem length_le_length_chars (h : Numberless ts) : ts.length ≤ (ts.flatMap chars).length := by
  induction ts with
  | nil => exact Nat.zero_le _
  | cons t ts ih =>
    obtain ⟨ht, hts⟩ := List.forall_mem_cons.mp h
    obtain ⟨c, cs, hchars, -⟩ := exists_cons_of_chars ht
    have := ih hts
    rw [List.flatMap_cons, List.length_append, List.length_cons, hchars, List.length_cons]
    omega

theorem ofChars_chars (h : Numberless ts) : ofChars (ts.flatMap chars) = some ts :=
  readAll_chars [] h (length_le_length_chars h)

end Token

namespace Value

open Token (Numberless)

/-! ### The tokens of a value -/

mutual

/-- The tokens that a value is written with. -/
def tokens : Value → List Token
  | null => [.null]
  | bool b => [.bool b]
  | number n => [.number n]
  | string s => [.string s]
  | array items => .openBracket :: itemTokens items ++ [.closeBracket]
  | object members => .openBrace :: memberTokens members ++ [.closeBrace]

@[inherit_doc tokens]
def itemTokens : List Value → List Token
  | [] => []
  | [v] => tokens v
  | v :: vs => tokens v ++ .comma :: itemTokens vs

@[inherit_doc tokens]
def memberTokens : List (Option String × Value) → List Token
  | [] => []
  | [(name, v)] => .string name :: .colon :: tokens v
  | (name, v) :: ms => .string name :: .colon :: (tokens v ++ .comma :: memberTokens ms)

end

mutual

theorem render_eq : (v : Value) → v.render = v.tokens.flatMap Token.chars
  | null => rfl
  | bool true => rfl
  | bool false => rfl
  | number n => by simp [render, tokens, Token.chars]
  | string s => by simp [render, tokens, Token.chars]
  | array items => by simp [render, tokens, Token.chars, renderItems_eq items]
  | object members => by simp [render, tokens, Token.chars, renderMembers_eq members]

theorem renderItems_eq : (vs : List Value) → renderItems vs = (itemTokens vs).flatMap Token.chars
  | [] => rfl
  | [v] => by simp [renderItems, itemTokens, render_eq v]
  | v :: w :: vs => by simp [renderItems, itemTokens, Token.chars, render_eq v, renderItems_eq (w :: vs)]

theorem renderMembers_eq : (ms : List (Option String × Value)) →
    renderMembers ms = (memberTokens ms).flatMap Token.chars
  | [] => rfl
  | [(name, v)] => by simp [renderMembers, memberTokens, Token.chars, render_eq v]
  | (name, v) :: m :: ms => by
    simp [renderMembers, memberTokens, Token.chars, render_eq v, renderMembers_eq (m :: ms)]

end

/-! ### Building the value again -/

/-- A place where a value can begin. -/
def Begins (place : Expecting) : Prop :=
  place = .value ∨ place = .firstItem

theorem step_of_begins {place : Expecting} {stack : List Frame} {t : Token} (h : Begins place)
    (ht : t ≠ .closeBracket) : step (place, stack) t = startValue stack t := by
  rcases h with rfl | rfl
  · rfl
  · rw [step]
    intro _ _ heq _
    exact ht heq

/-- A place where a name of an object can begin, with the members before it, the last one first. -/
def BeginsName (place : Expecting) (members : List (Option String × Value)) : Prop :=
  place = .firstName members ∨ place = .name members

theorem step_of_beginsName {place : Expecting} {members : List (Option String × Value)} {stack : List Frame}
    (h : BeginsName place members) (name : Option String) :
    step (place, stack) (.string name) = some (.colon members name, stack) := by
  rcases h with rfl | rfl <;> rfl

mutual

theorem foldlM_tokens (ts : List Token) : (v : Value) → {place : Expecting} → (stack : List Frame) → Begins place →
    (v.tokens ++ ts).foldlM step (place, stack) = ts.foldlM step (.after v, stack)
  | null, _, _, h => by
    rw [tokens, List.singleton_append, List.foldlM_cons, step_of_begins h (by simp)]
    rfl
  | bool b, _, _, h => by
    rw [tokens, List.singleton_append, List.foldlM_cons, step_of_begins h (by simp)]
    rfl
  | number n, _, _, h => by
    rw [tokens, List.singleton_append, List.foldlM_cons, step_of_begins h (by simp)]
    rfl
  | string s, _, _, h => by
    rw [tokens, List.singleton_append, List.foldlM_cons, step_of_begins h (by simp)]
    rfl
  | array [], _, _, h => by
    simp only [tokens, itemTokens, List.cons_append, List.nil_append]
    rw [List.foldlM_cons, step_of_begins h (by simp)]
    rfl
  | array (v :: vs), _, stack, h => by
    simp only [tokens, List.cons_append, List.append_assoc, List.nil_append]
    rw [List.foldlM_cons, step_of_begins h (by simp)]
    exact foldlM_itemTokens ts (v :: vs) (List.cons_ne_nil v vs) stack (Or.inr rfl) []
  | object [], _, _, h => by
    simp only [tokens, memberTokens, List.cons_append, List.nil_append]
    rw [List.foldlM_cons, step_of_begins h (by simp)]
    rfl
  | object (m :: ms), _, stack, h => by
    simp only [tokens, List.cons_append, List.append_assoc, List.nil_append]
    rw [List.foldlM_cons, step_of_begins h (by simp)]
    exact foldlM_memberTokens ts (m :: ms) (List.cons_ne_nil m ms) stack [] (Or.inl rfl)

theorem foldlM_itemTokens (ts : List Token) : (vs : List Value) → vs ≠ [] → {place : Expecting} → (stack : List Frame) →
    Begins place → (items : List Value) →
    (itemTokens vs ++ .closeBracket :: ts).foldlM step (place, .array items :: stack) =
      ts.foldlM step (.after (.array (items.reverse ++ vs)), stack)
  | [v], _, _, stack, h, items => by
    rw [itemTokens, foldlM_tokens _ v _ h, List.foldlM_cons]
    simp only [step, List.reverse_cons]
    rfl
  | v :: w :: vs, _, _, stack, h, items => by
    show ((v.tokens ++ .comma :: itemTokens (w :: vs)) ++ .closeBracket :: ts).foldlM step _ = _
    rw [List.append_assoc, foldlM_tokens _ v _ h, List.cons_append, List.foldlM_cons]
    have hrest := foldlM_itemTokens ts (w :: vs) (List.cons_ne_nil w vs) stack (Or.inl rfl) (v :: items)
    rw [List.reverse_cons, List.append_assoc] at hrest
    exact hrest

theorem foldlM_memberTokens (ts : List Token) : (ms : List (Option String × Value)) → ms ≠ [] → {place : Expecting} →
    (stack : List Frame) → (members : List (Option String × Value)) → BeginsName place members →
    (memberTokens ms ++ .closeBrace :: ts).foldlM step (place, stack) =
      ts.foldlM step (.after (.object (members.reverse ++ ms)), stack)
  | [(name, v)], _, _, stack, members, h => by
    simp only [memberTokens, List.cons_append]
    rw [List.foldlM_cons, step_of_beginsName h]
    show (.colon :: (v.tokens ++ .closeBrace :: ts)).foldlM step (.colon members name, stack) = _
    rw [List.foldlM_cons]
    show (v.tokens ++ .closeBrace :: ts).foldlM step (.value, .object members name :: stack) = _
    rw [foldlM_tokens _ v _ (Or.inl rfl), List.foldlM_cons]
    simp only [step, List.reverse_cons]
    rfl
  | (name, v) :: m :: ms, _, _, stack, members, h => by
    simp only [memberTokens, List.cons_append, List.append_assoc]
    rw [List.foldlM_cons, step_of_beginsName h]
    show (.colon :: (v.tokens ++ .comma :: (memberTokens (m :: ms) ++ .closeBrace :: ts))).foldlM step
      (.colon members name, stack) = _
    rw [List.foldlM_cons]
    show (v.tokens ++ .comma :: (memberTokens (m :: ms) ++ .closeBrace :: ts)).foldlM step
      (.value, .object members name :: stack) = _
    rw [foldlM_tokens _ v _ (Or.inl rfl), List.foldlM_cons]
    have hrest := foldlM_memberTokens ts (m :: ms) (List.cons_ne_nil m ms) stack ((name, v) :: members) (Or.inr rfl)
    rw [List.reverse_cons, List.append_assoc] at hrest
    exact hrest

end

theorem ofTokens_tokens (v : Value) : ofTokens v.tokens = some v := by
  have h := foldlM_tokens [] v [] (Or.inl rfl)
  rw [List.append_nil] at h
  unfold ofTokens
  rw [h]
  rfl

theorem ofChars_text {v : Value} (h : Numberless v.tokens) : Token.ofChars v.text.toList = some v.tokens := by
  unfold text
  rw [String.toList_ofList, render_eq]
  exact Token.ofChars_chars h

/-- What was written is read back as the same value. -/
theorem parse_text {v : Value} (h : Numberless v.tokens) : parse v.text.toList = some v := by
  unfold parse
  rw [ofChars_text h]
  exact ofTokens_tokens v

end Value

end Agenda.Json
