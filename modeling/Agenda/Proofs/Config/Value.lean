import Agenda.Config.Value
import Mathlib

/-!
# Layers of a configuration

A table put on top of another one gives its names their values and leaves the other names as they are; what a value
can be read as is not changed by what it is put on. A path begins with a name, and a path of one name is the text
itself.
-/

namespace Agenda.Config

namespace Value

variable {name m : String} {v b : Value} {es base : List (String × Value)} {f : Value → Value}

@[simp] theorem get?_nil : (table []).get? m = none :=
  rfl

theorem get?_cons : (table ((name, v) :: es)).get? m = if name = m then some v else (table es).get? m := by
  unfold get?
  show ((List.find? _ ((name, v) :: es)).map _) = _
  rw [List.find?_cons]
  by_cases h : name = m
  · rw [if_pos h, show ((name, v).1 == m) = true from beq_iff_eq.mpr h]
    rfl
  · rw [if_neg h, show ((name, v).1 == m) = false from beq_false_of_ne h]
    rfl

theorem get?_table_entries (v : Value) (m : String) : (table v.entries).get? m = v.get? m :=
  rfl

theorem get?_eq_none (h : m ∉ es.map (·.1)) : (table es).get? m = none := by
  unfold get?
  rw [Option.map_eq_none_iff, List.find?_eq_none]
  intro e he hm
  exact h (List.mem_map.mpr ⟨e, he, beq_iff_eq.mp hm⟩)

theorem mem_of_get? (h : (table es).get? m = some v) : (m, v) ∈ es := by
  obtain ⟨e, he, rfl⟩ := Option.map_eq_some_iff.mp h
  have hm := List.find?_some he
  rw [beq_iff_eq] at hm
  subst hm
  exact List.mem_of_find?_eq_some he

theorem get?_alter : (table (alter name f es)).get? m =
    if name = m then some (f (((table es).get? name).getD .null)) else (table es).get? m := by
  induction es with
  | nil =>
    rw [alter, get?_cons]
    rfl
  | cons e es ih =>
    obtain ⟨n, v⟩ := e
    rw [alter]
    by_cases hn : n = name
    · rw [if_pos hn, get?_cons, get?_cons, get?_cons, hn, if_pos rfl]
      split
      · rfl
      · rfl
    · rw [if_neg hn, get?_cons, get?_cons, get?_cons, if_neg hn, ih]
      by_cases hm : name = m
      · rw [if_pos hm, if_pos hm, if_neg fun h => hn (h.trans hm.symm)]
      · rw [if_neg hm, if_neg hm]

/-- The value is a table. -/
def isTable : Value → Bool
  | table _ => true
  | _ => false

theorem eq_table_of_isTable (h : v.isTable = true) : v = table v.entries := by
  cases v with
  | table es => rfl
  | null | bool | int | float | text | list => cases h

/-! ### Values on top of others -/

@[simp] theorem onto_table : (table es).onto b = table (entriesOnto es b.entries) := by
  rw [onto]

theorem onto_of_ne_table (h : ∀ es, v ≠ table es) : v.onto b = v := by
  cases v with
  | table es => exact absurd rfl (h es)
  | null | bool | int | float | text | list => rw [onto]; exact h

@[simp] theorem toText?_onto : (v.onto b).toText? = v.toText? := by
  cases v with
  | table es => rw [onto_table]; rfl
  | null | bool | int | float | text | list => rw [onto_of_ne_table (by simp)]

@[simp] theorem toNat?_onto : (v.onto b).toNat? = v.toNat? := by
  cases v with
  | table es => rw [onto_table]; rfl
  | null | bool | int | float | text | list => rw [onto_of_ne_table (by simp)]

/-- What a name stands for under a layer that has a value for it or not, put on what was there or was not. -/
def layered : Option Value → Option Value → Option Value
  | some v, old => some (v.onto (old.getD .null))
  | none, old => old

@[simp] theorem layered_none (old : Option Value) : layered none old = old :=
  rfl

/-- What reads a value the same whatever it is put on sees the layer alone, where it has a value. -/
theorem layered_bind {α : Type} {read : Value → Option α} (h : ∀ v b, read (onto v b) = read v)
    (top old : Option Value) : (layered top old).bind read = (top.or old).bind read := by
  cases top with
  | none => rfl
  | some v => exact h v _

theorem get?_entriesOnto_of_notMem (h : m ∉ es.map (·.1)) :
    (table (entriesOnto es base)).get? m = (table base).get? m := by
  induction es generalizing base with
  | nil => rw [entriesOnto]
  | cons e es ih =>
    obtain ⟨n, v⟩ := e
    rw [List.map_cons, List.mem_cons, not_or] at h
    rw [entriesOnto, ih h.2, get?_alter, if_neg (Ne.symm h.1)]

/-- Of entries with different names, each has its value put on what the name stood for. -/
theorem get?_entriesOnto (hes : (es.map (·.1)).Nodup) :
    (table (entriesOnto es base)).get? m = layered ((table es).get? m) ((table base).get? m) := by
  induction es generalizing base with
  | nil => rw [entriesOnto, get?_nil, layered_none]
  | cons e es ih =>
    obtain ⟨n, v⟩ := e
    obtain ⟨hn, hes⟩ := List.nodup_cons.mp hes
    rw [entriesOnto, get?_cons]
    by_cases hm : n = m
    · subst hm
      rw [if_pos rfl, get?_entriesOnto_of_notMem hn, get?_alter, if_pos rfl]
      rfl
    · rw [if_neg hm, ih hes, get?_alter, if_neg hm]

end Value

/-! ### Paths -/

theorem Step.parseRest_eq_nil {n : Nat} {cs : List Char} (h : Step.parseRest n cs = some []) : cs = [] := by
  unfold parseRest at h
  split at h
  · rfl
  · cases h
  · dsimp only at h
    split at h
    · cases h
    · obtain ⟨_, -, h⟩ := Option.map_eq_some_iff.mp h
      cases h
  · split at h
    · split at h
      all_goals
        obtain ⟨_, -, h⟩ := Option.bind_eq_some_iff.mp h
        obtain ⟨_, -, h⟩ := Option.map_eq_some_iff.mp h
        cases h
    · cases h
  · cases h

variable {key name : String}

theorem exists_pathOf (key : String) : ∃ name path, pathOf key = .name name :: path := by
  unfold pathOf
  dsimp only
  split
  · exact ⟨_, _, rfl⟩
  · exact ⟨_, _, rfl⟩

/-- A path that is a single name has that name as its text. -/
theorem eq_of_pathOf (h : pathOf key = [.name name]) : key = name := by
  unfold pathOf at h
  dsimp only at h
  split at h
  · rename_i rest hrest
    injection h with hfirst hnil
    split at hrest
    · cases hrest
    · have hnone : key.toList.dropWhile isNameChar = [] := Step.parseRest_eq_nil (hnil ▸ hrest)
      have hall := List.takeWhile_append_dropWhile (p := isNameChar) (l := key.toList)
      rw [hnone, List.append_nil] at hall
      rw [hall, String.ofList_toList] at hfirst
      injection hfirst
  · injection h with hname
    injection hname

end Agenda.Config
