import Agenda.Proofs.Config.Value
import Agenda.Settings.Load

/-!
# The settings under a layer

As long as the groups of a configuration are tables and no entry of a layer takes the place of a group or goes below a
setting, a layer acts on each setting by itself: what it has for the setting is put on what was there, and the other
settings stay as they are.
-/

namespace Agenda

namespace Setting

instance : Fintype Setting where
  elems := ⟨all, by decide⟩
  complete s := by cases s <;> decide

/-- The path of a setting in a configuration. -/
def path (s : Setting) : List Config.Step :=
  [.name s.group, .name s.name]

theorem pathOf_key (s : Setting) : Config.pathOf s.key = s.path := by
  revert s
  decide +kernel

theorem pathOf_group (s : Setting) : Config.pathOf s.group = [.name s.group] := by
  revert s
  decide +kernel

end Setting

namespace Settings

open Config (Value)

variable {config : Value} {path : List Config.Step} {n : String} {f : Value → Value} {es : List (String × Value)}

/-- The groups of the configuration, so far as it has them, are tables. -/
def Sectioned (config : Value) : Prop :=
  ∀ s : Setting, ∀ v ∈ config.get? s.group, v.isTable = true

instance (config : Value) : Decidable (Sectioned config) :=
  inferInstanceAs (Decidable (∀ s : Setting, ∀ v ∈ config.get? s.group, v.isTable = true))

/-- What goes into a group goes to a name of it, and stops there if the name is a setting's. -/
def Clear (path : List Config.Step) : Prop :=
  ∀ (s : Setting) (rest : List Config.Step), path = .name s.group :: rest →
    ∃ n below, rest = .name n :: below ∧ (n = s.name → below = [])

/-- The path goes into an item of the group, as if the group were a list. -/
def entersItem (group : String) : List Config.Step → Bool
  | .name n :: .index _ :: _ => n == group
  | _ => false

theorem clear_of_below (hgroup : ∀ s : Setting, path ≠ [.name s.group])
    (hbelow : ∀ s : Setting, s.path <+: path → path = s.path)
    (hitem : ∀ s : Setting, entersItem s.group path = false) : Clear path := by
  rintro s rest rfl
  cases rest with
  | nil => exact absurd rfl (hgroup s)
  | cons step below =>
    cases step with
    | name m =>
      refine ⟨m, below, rfl, ?_⟩
      rintro rfl
      have hend := hbelow s (List.prefix_append s.path below)
      exact (List.cons.inj (List.cons.inj hend).2).2
    | index i => exact absurd (beq_self_eq_true s.group) (Bool.eq_false_iff.mp (hitem s))

theorem clear_path (s : Setting) : Clear s.path := by
  intro s' rest h
  injection h with _ hrest
  exact ⟨s.name, [], hrest.symm, fun _ => rfl⟩

theorem find?_eq (h : Sectioned config) (s : Setting) :
    find? config s = (config.get? s.group).bind (·.get? s.name) := by
  unfold find?
  cases hg : config.get? s.group with
  | none => rfl
  | some v =>
    rw [Value.eq_table_of_isTable (h s v hg)]
    rfl

theorem getD_get? (m n : String) : ((config.get? m).getD .null).get? n = (config.get? m).bind (·.get? n) := by
  cases config.get? m with
  | none => rfl
  | some v => rfl

/-! ### One entry -/

theorem get?_alterAt (m : String) : (Value.alterAt f (.name n :: path) config).get? m =
    if n = m then some (Value.alterAt f path ((config.get? n).getD .null)) else config.get? m :=
  Value.get?_alter

theorem Sectioned.alterAt (h : Sectioned config) (hclear : Clear (.name n :: path)) :
    Sectioned (Value.alterAt f (.name n :: path) config) := by
  intro s v hv
  rw [get?_alterAt] at hv
  split at hv
  · rename_i hn
    obtain ⟨m, below, rfl, -⟩ := hclear s path (by rw [hn])
    cases hv
    rfl
  · exact h s v hv

/-- Changing the value at a path changes the setting of that path, and no other one. -/
theorem find?_alterAt (h : Sectioned config) (hclear : Clear (.name n :: path)) (s : Setting) :
    find? (Value.alterAt f (.name n :: path) config) s =
      if .name n :: path = s.path then some (f ((find? config s).getD .null)) else find? config s := by
  rw [find?_eq (h.alterAt hclear), find?_eq h, get?_alterAt]
  by_cases hn : n = s.group
  · obtain ⟨m, below, rfl, hbelow⟩ := hclear s path (by rw [hn])
    subst hn
    rw [if_pos rfl, Option.bind_some, get?_alterAt, getD_get?]
    by_cases hm : m = s.name
    · obtain rfl := hbelow hm
      subst hm
      rw [if_pos rfl]
      exact (if_pos rfl).symm
    · rw [if_neg hm, getD_get?, if_neg]
      intro hpath
      cases hpath
      exact hm rfl
  · rw [if_neg hn, if_neg]
    intro hpath
    cases hpath
    exact hn rfl

/-! ### A layer of values -/

/-- A layer whose entries go to the settings or past them leaves the groups tables. -/
theorem Sectioned.layer (h : Sectioned config) (hes : ∀ e ∈ es, Clear (Config.pathOf e.1)) :
    Sectioned (config.layer es) := by
  induction es generalizing config with
  | nil => exact h
  | cons e es ih =>
    obtain ⟨hclear, hes⟩ := List.forall_mem_cons.mp hes
    obtain ⟨n, path, hpath⟩ := Config.exists_pathOf e.1
    show Sectioned (Value.layer (Value.alterAt (Value.onto e.2) (Config.pathOf e.1) config) es)
    rw [hpath] at hclear ⊢
    exact ih (h.alterAt hclear) hes

/-- Of a layer's entries at most one goes to the setting, and that one is put on what was there. -/
theorem find?_layer {s : Setting} (h : Sectioned config) (hes : ∀ e ∈ es, Clear (Config.pathOf e.1))
    (hone : es.Pairwise fun a b => Config.pathOf a.1 = s.path → Config.pathOf b.1 ≠ s.path) :
    find? (config.layer es) s =
      Value.layered ((es.find? fun e => Config.pathOf e.1 = s.path).map (·.2)) (find? config s) := by
  induction es generalizing config with
  | nil => rfl
  | cons e es ih =>
    obtain ⟨hclear, hes⟩ := List.forall_mem_cons.mp hes
    obtain ⟨hfirst, hone⟩ := List.pairwise_cons.mp hone
    obtain ⟨n, path, hpath⟩ := Config.exists_pathOf e.1
    show find? (Value.layer (Value.alterAt (Value.onto e.2) (Config.pathOf e.1) config) es) s = _
    rw [List.find?_cons]
    rw [hpath] at hclear hfirst ⊢
    rw [ih (h.alterAt hclear) hes hone, find?_alterAt h hclear]
    by_cases hs : .name n :: path = s.path
    · have hnone : es.find? (fun e => Config.pathOf e.1 = s.path) = none :=
        List.find?_eq_none.mpr fun b hb => by simpa using hfirst b hb hs
      simp only [hs, hnone, decide_true, if_true]
      rfl
    · simp only [hs, decide_false, if_false]

/-! ### A layer of sections -/

/-- None of the names goes to a setting, below one or into an item of a group by a path of its own. -/
def Plain (names : List String) : Prop :=
  ∀ name ∈ names, ∀ s : Setting,
    ¬ s.path <+: Config.pathOf name ∧ entersItem s.group (Config.pathOf name) = false

instance (names : List String) : Decidable (Plain names) :=
  inferInstanceAs (Decidable (∀ name ∈ names, ∀ s : Setting,
    ¬ s.path <+: Config.pathOf name ∧ entersItem s.group (Config.pathOf name) = false))

theorem Sectioned.section {group : String} (h : Sectioned config) :
    Sectioned (Value.alterAt (Value.onto (.table es)) [.name group] config) := by
  intro s v hv
  rw [get?_alterAt] at hv
  split at hv
  · cases hv
    show (Value.onto (.table es) _).isTable = true
    rw [Value.onto_table]
    rfl
  · exact h s v hv

/-- A table that is put on a group changes the settings that it has. -/
theorem find?_section {group : String} (h : Sectioned config) (hes : (es.map (·.1)).Nodup) (s : Setting) :
    find? (Value.alterAt (Value.onto (.table es)) [.name group] config) s =
      Value.layered (if group = s.group then (Value.table es).get? s.name else none) (find? config s) := by
  rw [find?_eq h.section, find?_eq h, get?_alterAt]
  by_cases hgroup : group = s.group
  · subst hgroup
    rw [if_pos rfl, if_pos rfl, Option.bind_some]
    show ((Value.table es).onto ((config.get? s.group).getD .null)).get? s.name = _
    rw [Value.onto_table, Value.get?_entriesOnto hes, Value.get?_table_entries, getD_get?]
  · rw [if_neg hgroup, if_neg hgroup, Value.layered_none]

theorem find?_table_eq_none {s : Setting} (h : s.group ∉ es.map (·.1)) : find? (.table es) s = none := by
  unfold find?
  rw [Value.get?_eq_none h]

theorem Sectioned.of_cons {e : String × Value} (h : Sectioned (.table (e :: es))) (he : e.1 ∉ es.map (·.1)) :
    Sectioned (.table es) := by
  intro s v hv
  refine h s v ?_
  rw [Value.get?_cons, if_neg]
  · exact hv
  · intro hname
    exact he (List.mem_map.mpr ⟨_, Value.mem_of_get? hv, hname.symm⟩)

theorem find?_table_cons {e : String × Value} (h : Sectioned (.table (e :: es))) (he : e.1 ∉ es.map (·.1))
    (s : Setting) :
    find? (.table (e :: es)) s = if e.1 = s.group then e.2.get? s.name else find? (.table es) s := by
  rw [find?_eq h, find?_eq (h.of_cons he), Value.get?_cons]
  split
  · rfl
  · rfl

/-- What a file of sections has for a setting is put on what was there. -/
theorem find?_layer_sections {s : Setting} (h : Sectioned config) (hnames : (es.map (·.1)).Nodup)
    (hinner : ∀ e ∈ es, (e.2.entries.map (·.1)).Nodup) (hsections : Sectioned (.table es))
    (hplain : Plain (es.map (·.1))) :
    find? (config.layer es) s = Value.layered (find? (.table es) s) (find? config s) := by
  induction es generalizing config with
  | nil => rfl
  | cons e es ih =>
    obtain ⟨hfirst, hnames⟩ := List.nodup_cons.mp hnames
    obtain ⟨hv, hinner⟩ := List.forall_mem_cons.mp hinner
    obtain ⟨hname, hplain⟩ := List.forall_mem_cons.mp hplain
    have hrest := hsections.of_cons hfirst
    show find? (Value.layer (Value.alterAt (Value.onto e.2) (Config.pathOf e.1) config) es) s = _
    rw [find?_table_cons hsections hfirst]
    -- A section is put on its group; any other name goes past the settings.
    by_cases hgroup : ∃ s' : Setting, e.1 = s'.group
    · obtain ⟨s', hs'⟩ := hgroup
      have htable := Value.eq_table_of_isTable (hsections s' e.2 (by rw [Value.get?_cons, if_pos hs']; rfl))
      rw [hs', Setting.pathOf_group, htable, ih h.section hnames hinner hrest hplain, find?_section h hv]
      by_cases hs : s'.group = s.group
      · rw [if_pos hs, if_pos hs, find?_table_eq_none (hs ▸ hs' ▸ hfirst), Value.layered_none,
          Value.get?_table_entries]
      · rw [if_neg hs, if_neg hs, Value.layered_none]
    · obtain ⟨n, path, hpath⟩ := Config.exists_pathOf e.1
      have hclear : Clear (Config.pathOf e.1) :=
        clear_of_below (fun s' hpath => hgroup ⟨s', Config.eq_of_pathOf hpath⟩)
          (fun s' hbelow => absurd hbelow (hname s').1) fun s' => (hname s').2
      have hno : Config.pathOf e.1 ≠ s.path := fun hpath => (hname s).1 (hpath ▸ List.prefix_refl _)
      rw [hpath] at hclear hno
      rw [if_neg fun hs => hgroup ⟨s, hs⟩, hpath, ih (h.alterAt hclear) hnames hinner hrest hplain,
        find?_alterAt h hclear, if_neg hno]

end Settings

end Agenda
