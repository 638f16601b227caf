import Agenda.Config.EnvFile
import Mathlib

/-!
# The variables of a file

A file of variables says what its lines assign, up to the first malformed line, and adds that (`addLines_eq_addAll`).
It is as if the assignments stood behind the variables that exist, and of several variables of one name the first one
counted (`find?_addAll`). The program stops just if one that counts cannot be set (`addAll_isSome_iff`).
-/

namespace Agenda.Config.EnvFile

/-- What lines assign, up to the first malformed one. A value that names variables has their values: those of the
environment, and those of the lines before. -/
def definitions (environment : List (String × String)) : List (Option (List Char)) → List (String × String)
  | [] => []
  | none :: _ => []
  | some line :: rest =>
    match readAssignment (lookup environment) line with
    | none => []
    | some none => definitions environment rest
    | some (some a) => a :: definitions (environment ++ [a]) rest

/-- What the lines of a file assign. -/
def fileDefinitions (environment : List (String × String)) (text : String) : List (String × String) :=
  let cs := text.toList
  let cs := if cs.head? == some '\uFEFF' then cs.drop 1 else cs
  definitions environment (lines (cs.length + 1) [] .plain cs)

/-- The environment with assignments behind it; a name that exists keeps its value. There is none if the program stops. -/
def addAll (environment : List (String × String)) : List (String × String) → Option (List (String × String))
  | [] => some environment
  | a :: rest =>
    if environment.any (·.1 == a.1) then addAll environment rest
    else if a.2.toList.contains '\x00' then none
    else addAll (environment ++ [a]) rest

/-- Whatever the assignments add to the environment can be set: none of its values holds U+0000. -/
def Settable (environment assignments : List (String × String)) : Prop :=
  ∀ v, environment.find? (·.1 == v.1) = none → assignments.find? (·.1 == v.1) = some v → '\x00' ∉ v.2.toList

variable {environment environment' assignments : List (String × String)} {lines : List (Option (List Char))}
  {a : String × String} {name : String}

/-- One more variable of a name that exists is never found. -/
theorem find?_append_singleton (h : environment.any (·.1 == a.1)) (name : String) :
    (environment ++ [a]).find? (·.1 == name) = environment.find? (·.1 == name) := by
  rw [List.find?_append]
  by_cases hname : a.1 = name
  · subst hname
    obtain ⟨b, hb, hba⟩ := List.any_eq_true.mp h
    have hfound : (environment.find? (·.1 == a.1)).isSome := List.find?_isSome.mpr ⟨b, hb, hba⟩
    rw [Option.or_of_isSome hfound]
  · rw [List.find?_singleton, if_neg (by simpa using hname), Option.or_none]

/-- What lines assign depends on the values that are found, and not on variables behind them. -/
theorem definitions_congr
    (h : ∀ name, environment.find? (·.1 == name) = environment'.find? (·.1 == name))
    (lines : List (Option (List Char))) : definitions environment lines = definitions environment' lines := by
  induction lines generalizing environment environment' with
  | nil => rfl
  | cons line rest ih =>
    cases line with
    | none => rfl
    | some line =>
      have hlookup : lookup environment = lookup environment' := by
        funext name
        unfold lookup
        rw [h]
      rw [definitions, definitions, hlookup]
      split
      · rfl
      · exact ih h
      · rename_i a _
        have hnext : ∀ name,
            (environment ++ [a]).find? (·.1 == name) = (environment' ++ [a]).find? (·.1 == name) := by
          intro name
          rw [List.find?_append, h, List.find?_append]
        rw [ih hnext]

theorem settable_of_forall (h : ∀ v ∈ assignments, '\x00' ∉ v.2.toList) : Settable environment assignments :=
  fun _ _ hfound => h _ (List.mem_of_find?_eq_some hfound)

theorem any_eq_false_iff : environment.any (·.1 == name) = false ↔ environment.find? (·.1 == name) = none := by
  rw [List.any_eq_false, List.find?_eq_none]

theorem settable_cons : Settable environment (a :: assignments) ↔
    (environment.any (·.1 == a.1) = false → '\x00' ∉ a.2.toList) ∧ Settable (environment ++ [a]) assignments := by
  constructor
  · intro h
    refine ⟨fun hnew => h a (any_eq_false_iff.mp hnew) (List.find?_cons_of_pos (beq_self_eq_true a.1)), ?_⟩
    intro v hnew hfound
    rw [List.find?_append, Option.or_eq_none_iff, List.find?_singleton] at hnew
    have hne : (a.1 == v.1) = false := by simpa using hnew.2
    refine h v hnew.1 ?_
    rw [List.find?_cons, hne]
    exact hfound
  · rintro ⟨hfirst, hrest⟩ v hnew hfound
    rw [List.find?_cons] at hfound
    cases heq : a.1 == v.1 with
    | true =>
      rw [heq] at hfound
      obtain rfl := Option.some.inj hfound
      exact hfirst (any_eq_false_iff.mpr hnew)
    | false =>
      rw [heq] at hfound
      refine hrest v ?_ hfound
      rw [List.find?_append, hnew, Option.none_or, List.find?_singleton, heq]
      rfl

/-- Adding a variable whose name exists makes no difference to the lines behind it. -/
theorem definitions_append_singleton (h : environment.any (·.1 == a.1)) (lines : List (Option (List Char))) :
    definitions (environment ++ [a]) lines = definitions environment lines :=
  definitions_congr (find?_append_singleton h) lines

theorem settable_append_singleton (h : environment.any (·.1 == a.1)) :
    Settable (environment ++ [a]) assignments ↔ Settable environment assignments := by
  unfold Settable
  simp only [find?_append_singleton h]

/-- Lines add what they assign. -/
theorem addLines_eq_addAll (environment : List (String × String)) (lines : List (Option (List Char))) :
    addLines environment lines = addAll environment (definitions environment lines) := by
  induction lines generalizing environment with
  | nil => rfl
  | cons line rest ih =>
    cases line with
    | none => rfl
    | some line =>
      rcases hread : readAssignment (lookup environment) line with _ | _ | a
      · rw [addLines, definitions, hread]
        rfl
      · rw [addLines, definitions, hread]
        exact ih environment
      · rw [addLines, definitions, hread]
        simp only [addAll, ih]
        -- An assignment to a name that exists is dropped, and the lines behind it find the same values either way.
        by_cases hold : environment.any (·.1 == a.1)
        · rw [if_pos hold, if_pos hold, definitions_append_singleton hold]
        · rw [if_neg hold, if_neg hold]

/-- The program gets past assignments just if what they add can be set. -/
theorem addAll_isSome_iff (environment assignments : List (String × String)) :
    (addAll environment assignments).isSome ↔ Settable environment assignments := by
  induction assignments generalizing environment with
  | nil => exact iff_of_true rfl (settable_of_forall nofun)
  | cons a rest ih =>
    rw [addAll, settable_cons]
    by_cases hold : environment.any (·.1 == a.1)
    · rw [if_pos hold, ih, settable_append_singleton hold]
      simp [hold]
    · rw [if_neg hold]
      by_cases hnul : '\x00' ∈ a.2.toList
      · simp [hnul, hold]
      · simp [hnul, ih]

/-- Assignments are found behind the variables that exist. -/
theorem find?_addAll (h : addAll environment assignments = some environment') (name : String) :
    environment'.find? (·.1 == name) = (environment ++ assignments).find? (·.1 == name) := by
  induction assignments generalizing environment with
  | nil =>
    obtain rfl := Option.some.inj h
    rw [List.append_nil]
  | cons a rest ih =>
    rw [addAll] at h
    rw [List.append_cons]
    split at h
    · rename_i hold
      rw [ih h, List.find?_append, List.find?_append, find?_append_singleton hold]
    · split at h
      · cases h
      · exact ih h

theorem nodup_addAll (hnodup : (environment.map (·.1)).Nodup) (h : addAll environment assignments = some environment') :
    (environment'.map (·.1)).Nodup := by
  induction assignments generalizing environment with
  | nil =>
    obtain rfl := Option.some.inj h
    exact hnodup
  | cons a rest ih =>
    rw [addAll] at h
    split at h
    · exact ih hnodup h
    · rename_i hnew
      split at h
      · cases h
      · refine ih ?_ h
        rw [List.map_append, List.map_singleton, ← List.concat_eq_append]
        refine hnodup.concat fun hold => ?_
        obtain ⟨b, hb, hba⟩ := List.mem_map.mp hold
        exact hnew (List.any_eq_true.mpr ⟨b, hb, beq_iff_eq.mpr hba⟩)

end Agenda.Config.EnvFile
