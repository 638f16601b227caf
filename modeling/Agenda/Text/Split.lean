/-!
# Texts cut at a separator

`pieces` keeps the empty pieces, so a text with `n` separators has `n + 1` pieces, and joining them gives the text
back; `cutAt` stops at the first separator.
-/

namespace Agenda.Text

/-- Puts a character in front of pieces: a separator begins a new piece. -/
def consPiece (sep c : Char) (ps : List (List Char)) : List (List Char) :=
  if c = sep then [] :: ps
  else
    match ps with
    | [] => [[c]]
    | p :: ps => (c :: p) :: ps

/-- The pieces between the separators, empty ones included. -/
def pieces (sep : Char) (cs : List Char) : List (List Char) :=
  cs.foldr (consPiece sep) [[]]

/-- What stands before the first separator, and what stands after it if there is one. -/
def cutAt (sep : Char) (cs : List Char) : List Char × Option (List Char) :=
  (cs.takeWhile (· ≠ sep),
    match cs.dropWhile (· ≠ sep) with
    | [] => none
    | _ :: rest => some rest)

/-- The pieces joined again, with the separator between each two. -/
def join (sep : Char) : List (List Char) → List Char
  | [] => []
  | [p] => p
  | p :: ps => p ++ sep :: join sep ps

theorem pieces_cons (sep c : Char) (cs : List Char) : pieces sep (c :: cs) = consPiece sep c (pieces sep cs) := rfl

theorem pieces_ne_nil (sep : Char) (cs : List Char) : pieces sep cs ≠ [] := by
  cases cs with
  | nil => simp [pieces]
  | cons c cs =>
    rw [pieces_cons]
    unfold consPiece
    split
    · simp
    · split <;> simp

theorem pieces_of_not_mem {sep : Char} {cs : List Char} (h : sep ∉ cs) : pieces sep cs = [cs] := by
  induction cs with
  | nil => rfl
  | cons c cs ih =>
    rw [List.mem_cons, not_or] at h
    rw [pieces_cons, ih h.2]
    unfold consPiece
    rw [if_neg (Ne.symm h.1)]

theorem join_consPiece (sep c : Char) {ps : List (List Char)} (h : ps ≠ []) :
    join sep (consPiece sep c ps) = c :: join sep ps := by
  unfold consPiece
  match ps, h with
  | p :: ps, _ =>
    split
    · rename_i hc
      simp [join, hc]
    · cases ps <;> simp [join]

theorem join_pieces (sep : Char) (cs : List Char) : join sep (pieces sep cs) = cs := by
  induction cs with
  | nil => rfl
  | cons c cs ih => rw [pieces_cons, join_consPiece sep c (pieces_ne_nil sep cs), ih]

/-- A text has one piece more than separators. -/
theorem length_pieces (sep : Char) (cs : List Char) : (pieces sep cs).length = cs.count sep + 1 := by
  induction cs with
  | nil => rfl
  | cons c cs ih =>
    rw [pieces_cons, List.count_cons]
    unfold consPiece
    split
    · rename_i hc
      rw [List.length_cons, ih, if_pos (beq_iff_eq.mpr hc)]
    · rename_i hc
      rw [if_neg (mt beq_iff_eq.mp hc), Nat.add_zero, ← ih]
      split
      · rename_i hnil
        exact absurd hnil (pieces_ne_nil sep cs)
      · rename_i hcons
        rw [hcons]
        rfl

theorem not_mem_of_mem_pieces {sep : Char} {p cs : List Char} (h : p ∈ pieces sep cs) : sep ∉ p := by
  induction cs generalizing p with
  | nil =>
    rw [List.mem_singleton.mp h]
    exact List.not_mem_nil
  | cons c cs ih =>
    rw [pieces_cons] at h
    unfold consPiece at h
    split at h
    · rcases List.mem_cons.mp h with rfl | h
      · exact List.not_mem_nil
      · exact ih h
    · rename_i hc
      split at h
      · rename_i hnil
        exact absurd hnil (pieces_ne_nil sep cs)
      · rename_i q qs hcons
        rcases List.mem_cons.mp h with rfl | h
        · rw [List.mem_cons, not_or]
          exact ⟨Ne.symm hc, ih (hcons ▸ List.mem_cons_self)⟩
        · exact ih (hcons ▸ List.mem_cons_of_mem q h)

theorem pieces_append_cons {sep : Char} {p : List Char} (h : sep ∉ p) (cs : List Char) :
    pieces sep (p ++ sep :: cs) = p :: pieces sep cs := by
  induction p with
  | nil =>
    rw [List.nil_append, pieces_cons]
    exact if_pos rfl
  | cons c p ih =>
    rw [List.mem_cons, not_or] at h
    rw [List.cons_append, pieces_cons, ih h.2]
    unfold consPiece
    rw [if_neg (Ne.symm h.1)]

/-- Pieces that do not hold the separator are the pieces of what they are joined to. -/
theorem pieces_join {sep : Char} {ps : List (List Char)} (hne : ps ≠ []) (h : ∀ p ∈ ps, sep ∉ p) :
    pieces sep (join sep ps) = ps := by
  match ps, hne with
  | [p], _ => exact pieces_of_not_mem (h p List.mem_cons_self)
  | p :: q :: ps, _ =>
    show pieces sep (p ++ sep :: join sep (q :: ps)) = _
    rw [pieces_append_cons (h p List.mem_cons_self),
      pieces_join (List.cons_ne_nil q ps) fun r hr => h r (List.mem_cons_of_mem p hr)]

theorem mem_join {sep c : Char} {ps : List (List Char)} (h : c ∈ join sep ps) : c = sep ∨ ∃ p ∈ ps, c ∈ p := by
  match ps with
  | [] => cases h
  | [p] => exact Or.inr ⟨p, List.mem_cons_self, h⟩
  | p :: q :: ps =>
    rcases List.mem_append.mp h with h | h
    · exact Or.inr ⟨p, List.mem_cons_self, h⟩
    · rcases List.mem_cons.mp h with rfl | h
      · exact Or.inl rfl
      · rcases mem_join h with rfl | ⟨r, hr, hc⟩
        · exact Or.inl rfl
        · exact Or.inr ⟨r, List.mem_cons_of_mem p hr, hc⟩

theorem cutAt_append_cons {sep : Char} {p : List Char} (h : sep ∉ p) (cs : List Char) :
    cutAt sep (p ++ sep :: cs) = (p, some cs) := by
  have hp : ∀ c ∈ p, (decide (c ≠ sep)) = true := fun c hc => decide_eq_true fun heq => h (heq ▸ hc)
  unfold cutAt
  rw [List.takeWhile_append_of_pos hp, List.dropWhile_append_of_pos hp]
  simp

theorem cutAt_of_not_mem {sep : Char} {cs : List Char} (h : sep ∉ cs) : cutAt sep cs = (cs, none) := by
  have hcs : ∀ c ∈ cs, (decide (c ≠ sep)) = true := fun c hc => decide_eq_true fun heq => h (heq ▸ hc)
  have htake : (cs ++ []).takeWhile (· ≠ sep) = cs ++ [] := List.takeWhile_append_of_pos hcs
  have hdrop : (cs ++ []).dropWhile (· ≠ sep) = [] := List.dropWhile_append_of_pos hcs
  rw [List.append_nil] at htake hdrop
  unfold cutAt
  rw [htake, hdrop]

end Agenda.Text
