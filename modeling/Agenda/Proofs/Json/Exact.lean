import Agenda.Proofs.Json.Render

/-!
# A value has its own tokens

The reader of values takes the tokens of a value and no others (`Value.ofTokens_eq_some_iff`). What carries the proof
is that the open arrays and objects on its stack hold every token that was read (`Value.readSoFar`), and that a step
adds the one it reads.
-/

namespace Agenda.Json

namespace Value

variable {t : Token} {ts : List Token} {v : Value} {vs : List Value} {name : Option String}
  {ms : List (Option String × Value)} {stack : List Frame} {state next : Expecting × List Frame}

/-! ### Tokens of items and members -/

theorem itemTokens_cons (v : Value) (h : vs ≠ []) : itemTokens (v :: vs) = v.tokens ++ .comma :: itemTokens vs := by
  cases vs with
  | nil => exact absurd rfl h
  | cons w vs => rfl

theorem memberTokens_cons (name : Option String) (v : Value) (h : ms ≠ []) :
    memberTokens ((name, v) :: ms) = .string name :: .colon :: (v.tokens ++ .comma :: memberTokens ms) := by
  cases ms with
  | nil => exact absurd rfl h
  | cons m ms => rfl

/-- The tokens of items with a comma behind each, for items with the last one first. -/
def itemsSoFar (items : List Value) : List Token :=
  items.reverse.flatMap fun v => v.tokens ++ [.comma]

/-- The tokens of members with a comma behind each, for members with the last one first. -/
def membersSoFar (members : List (Option String × Value)) : List Token :=
  members.reverse.flatMap fun m => .string m.1 :: .colon :: (m.2.tokens ++ [.comma])

theorem itemTokens_concat (vs : List Value) (v : Value) :
    itemTokens (vs ++ [v]) = (vs.flatMap fun v => v.tokens ++ [.comma]) ++ v.tokens := by
  induction vs with
  | nil => rfl
  | cons w vs ih =>
    rw [List.cons_append, itemTokens_cons w (List.concat_ne_nil v vs), ih, List.flatMap_cons]
    simp

theorem memberTokens_concat (ms : List (Option String × Value)) (name : Option String) (v : Value) :
    memberTokens (ms ++ [(name, v)]) =
      (ms.flatMap fun m => .string m.1 :: .colon :: (m.2.tokens ++ [.comma])) ++
        .string name :: .colon :: v.tokens := by
  induction ms with
  | nil => rfl
  | cons m ms ih =>
    rw [List.cons_append, memberTokens_cons m.1 m.2 (List.concat_ne_nil _ ms), ih, List.flatMap_cons]
    simp

theorem itemsSoFar_cons (v : Value) (items : List Value) :
    itemsSoFar (v :: items) = itemsSoFar items ++ v.tokens ++ [.comma] := by
  simp [itemsSoFar]

theorem membersSoFar_cons (name : Option String) (v : Value) (members : List (Option String × Value)) :
    membersSoFar ((name, v) :: members) =
      membersSoFar members ++ [.string name, .colon] ++ v.tokens ++ [.comma] := by
  simp [membersSoFar]

theorem tokens_array_concat (items : List Value) (v : Value) :
    (array (items.reverse ++ [v])).tokens = .openBracket :: itemsSoFar items ++ v.tokens ++ [.closeBracket] := by
  rw [tokens, itemTokens_concat, itemsSoFar]
  simp

theorem tokens_object_concat (members : List (Option String × Value)) (name : Option String) (v : Value) :
    (object (members.reverse ++ [(name, v)])).tokens =
      .openBrace :: membersSoFar members ++ [.string name, .colon] ++ v.tokens ++ [.closeBrace] := by
  rw [tokens, memberTokens_concat, membersSoFar]
  simp

/-! ### What was read -/

/-- What was read of an array or object that is still open. -/
def Frame.tokens : Frame → List Token
  | .array items => .openBracket :: itemsSoFar items
  | .object members name => .openBrace :: membersSoFar members ++ [.string name, .colon]

/-- What was read and is not on the stack. -/
def Expecting.tokens : Expecting → List Token
  | .value | .firstItem => []
  | .firstName members | .name members => .openBrace :: membersSoFar members
  | .colon members name => .openBrace :: membersSoFar members ++ [.string name]
  | .after v => v.tokens

/-- The tokens that were read. -/
def readSoFar (state : Expecting × List Frame) : List Token :=
  state.2.reverse.flatMap Frame.tokens ++ state.1.tokens

/-- Of an array or object whose first item or name comes next, nothing was read but the bracket or brace. -/
def Fresh : Expecting × List Frame → Prop
  | (.firstItem, stack) => stack.head? = some (.array [])
  | (.firstName members, _) => members = []
  | _ => True

theorem tokens_of_ofToken? (h : ofToken? t = some v) : v.tokens = [t] := by
  cases t <;> cases h <;> rfl

theorem readSoFar_startValue (h : startValue stack t = some next) :
    Fresh next ∧ readSoFar next = stack.reverse.flatMap Frame.tokens ++ [t] := by
  unfold startValue at h
  split at h
  · cases h
    exact ⟨rfl, by simp [readSoFar, Expecting.tokens, Frame.tokens, itemsSoFar]⟩
  · cases h
    exact ⟨rfl, by simp [readSoFar, Expecting.tokens, membersSoFar]⟩
  · obtain ⟨v, hv, rfl⟩ := Option.map_eq_some_iff.mp h
    exact ⟨trivial, by rw [readSoFar, Expecting.tokens, tokens_of_ofToken? hv]⟩

theorem readSoFar_cons (place : Expecting) (frame : Frame) (stack : List Frame) :
    readSoFar (place, frame :: stack) = stack.reverse.flatMap Frame.tokens ++ frame.tokens ++ place.tokens := by
  simp [readSoFar]

/-- A step adds the token that it reads. -/
theorem readSoFar_step (h : step state t = some next) (hfresh : Fresh state) :
    Fresh next ∧ readSoFar next = readSoFar state ++ [t] := by
  unfold step at h
  split at h
  case h_1 => simpa [readSoFar, Expecting.tokens] using readSoFar_startValue h
  case h_3 => simpa [readSoFar, Expecting.tokens] using readSoFar_startValue h
  case h_12 => cases h
  case h_2 items stack =>
    -- The array is empty, for its first item came next.
    obtain rfl : items = [] := Frame.array.inj (Option.some.inj hfresh)
    cases h
    refine ⟨trivial, ?_⟩
    rw [readSoFar_cons]
    simp [readSoFar, Expecting.tokens, Frame.tokens, itemsSoFar, tokens, itemTokens]
  case h_4 members stack =>
    obtain rfl : members = [] := hfresh
    cases h
    refine ⟨trivial, ?_⟩
    simp [readSoFar, Expecting.tokens, membersSoFar, tokens, memberTokens]
  all_goals
    cases h
    refine ⟨trivial, ?_⟩
    simp [readSoFar, Expecting.tokens, Frame.tokens, itemsSoFar_cons, membersSoFar_cons, tokens_array_concat,
      tokens_object_concat]

theorem readSoFar_foldlM (h : ts.foldlM step state = some next) (hfresh : Fresh state) :
    readSoFar next = readSoFar state ++ ts := by
  induction ts generalizing state with
  | nil =>
    cases h
    exact (List.append_nil _).symm
  | cons t ts ih =>
    rw [List.foldlM_cons] at h
    obtain ⟨s, hs, hrest⟩ := Option.bind_eq_some_iff.mp h
    obtain ⟨hfresh, hread⟩ := readSoFar_step hs hfresh
    rw [ih hrest hfresh, hread, List.append_assoc, List.singleton_append]

/-- The tokens that make up a value are the ones that it is written with. -/
theorem ofTokens_eq_some_iff : ofTokens ts = some v ↔ ts = v.tokens := by
  constructor
  · intro h
    unfold ofTokens at h
    split at h
    · rename_i hrun
      cases h
      exact (readSoFar_foldlM hrun trivial).symm
    · cases h
  · rintro rfl
    exact ofTokens_tokens v

end Value

end Agenda.Json
