import Agenda.Proofs.Config.EnvFile
import Agenda.Proofs.Config.Toml
import Agenda.Proofs.Settings.Content

/-!
# Loading setting by setting

Every setting is picked by itself: what `config.toml` has for it, or else what the variable of its name says, or else
the default. This is so as long as no variable goes to a whole group, below a setting or into an item of a group, and
no name of the file goes to a setting by a path of its own; loading then fails if one of the values that are picked
cannot be read, and not otherwise. A variable of the file of variables that cannot be set stops the program.
-/

namespace Agenda

namespace Settings

open Config (Value)

variable {environment environment' files : List (String × String)} {file : List (String × Value)} {s : Setting}

/-! ### The values that are picked -/

/-- What the file of variables assigns. -/
def addedVariables (environment files : List (String × String)) : List (String × String) :=
  match files.find? (·.1 == variablesFile) with
  | some (_, text) => Config.EnvFile.fileDefinitions environment text
  | none => []

/-- The variables that count: those of the environment and, behind them, what the file of variables assigns. -/
def allVariables (environment files : List (String × String)) : List (String × String) :=
  environment ++ addedVariables environment files

/-- No variable that the file of variables adds stops the program. -/
def Settable (environment files : List (String × String)) : Prop :=
  Config.EnvFile.Settable environment (addedVariables environment files)

/-- Where the name of a variable goes. -/
def variablePath (name : String) : List Config.Step :=
  Config.pathOf (Config.Environment.key name)

/-- What variables say of a setting: the first variable that goes to it, unless it is empty. -/
def ofVariables (vars : List (String × String)) (s : Setting) : Option Value :=
  ((vars.find? fun v => variablePath v.1 = s.path).filter (·.2 ≠ "")).map fun v => Config.Environment.value v.2

/-- The value that is picked for a setting. -/
def picked (vars : List (String × String)) (file : List (String × Value)) (s : Setting) : Value :=
  ((find? (.table file) s).or (ofVariables vars s)).getD s.default

/-- The entries of `config.toml`. Without that file there are none, and there must not be one in its place. -/
def configFile? (files : List (String × String)) : Option (List (String × Value)) :=
  match files.find? (·.1 == "config.toml") with
  | some (_, text) => Config.Toml.parse (withoutMark text)
  | none => if fileNames.any fun f => files.any (·.1 == f.1) then none else some []

/-! ### Names of variables -/

/-- At most one of the names goes to each setting, and none to a whole group or below a setting. -/
structure Orderly (names : List String) : Prop where
  one : ∀ s : Setting, ∀ m ∈ names, ∀ n ∈ names, variablePath m = s.path → variablePath n = s.path → m = n
  noGroup : ∀ n ∈ names, ∀ s : Setting, variablePath n ≠ [.name s.group]
  noBelow : ∀ n ∈ names, ∀ s : Setting, s.path <+: variablePath n → variablePath n = s.path

/-- None of the names goes into an item of a group. -/
def Itemless (names : List String) : Prop :=
  ∀ n ∈ names, ∀ s : Setting, entersItem s.group (variablePath n) = false

instance (names : List String) : Decidable (Itemless names) :=
  inferInstanceAs (Decidable (∀ n ∈ names, ∀ s : Setting, entersItem s.group (variablePath n) = false))

instance (names : List String) : Decidable (Orderly names) :=
  decidable_of_iff
    ((∀ s : Setting, ∀ m ∈ names, ∀ n ∈ names, variablePath m = s.path → variablePath n = s.path → m = n) ∧
      (∀ n ∈ names, ∀ s : Setting, variablePath n ≠ [.name s.group]) ∧
      ∀ n ∈ names, ∀ s : Setting, s.path <+: variablePath n → variablePath n = s.path)
    ⟨fun ⟨one, noGroup, noBelow⟩ => ⟨one, noGroup, noBelow⟩, fun h => ⟨h.one, h.noGroup, h.noBelow⟩⟩

theorem Orderly.mono {names names' : List String} (h : Orderly names') (hsub : names ⊆ names') : Orderly names where
  one s m hm n hn := h.one s m (hsub hm) n (hsub hn)
  noGroup n hn := h.noGroup n (hsub hn)
  noBelow n hn := h.noBelow n (hsub hn)

theorem Orderly.clear {names : List String} (h : Orderly names) (hitem : Itemless names) {n : String} (hn : n ∈ names) :
    Clear (variablePath n) :=
  clear_of_below (h.noGroup n hn) (h.noBelow n hn) (hitem n hn)

/-! ### The environment -/

theorem find?_and_of_pairwise {α : Type} {p q : α → Bool} {l : List α}
    (h : l.Pairwise fun a b => q a = true → q b ≠ true) :
    (l.find? fun a => p a && q a) = (l.find? q).filter p := by
  induction l with
  | nil => rfl
  | cons a l ih =>
    obtain ⟨ha, h⟩ := List.pairwise_cons.mp h
    rw [List.find?_cons, List.find?_cons]
    cases hq : q a with
    | false =>
      rw [Bool.and_false]
      exact ih h
    | true =>
      rw [Bool.and_true, Option.filter_some]
      cases hp : p a with
      | true => rfl
      | false =>
        rw [List.find?_eq_none.mpr]
        · rfl
        · intro b hb hpq
          exact ha b hb hq (Bool.and_eq_true_iff.mp hpq).2

/-- Of variables with different names one goes to the setting. -/
theorem Orderly.pairwise (h : Orderly (environment.map (·.1))) (hnodup : (environment.map (·.1)).Nodup) (s : Setting) :
    environment.Pairwise fun a b => variablePath a.1 = s.path → variablePath b.1 ≠ s.path := by
  refine (List.pairwise_map.mp hnodup).imp_of_mem fun ha hb hne hpa hpb => hne ?_
  exact h.one s _ (List.mem_map_of_mem ha) _ (List.mem_map_of_mem hb) hpa hpb

theorem find?_entries (h : Orderly (environment.map (·.1))) (hnodup : (environment.map (·.1)).Nodup) (s : Setting) :
    ((Config.Environment.entries environment).find? fun e => Config.pathOf e.1 = s.path).map (·.2) =
      ofVariables environment s := by
  have hpair := (h.pairwise hnodup s).imp fun hab ha hb => hab (of_decide_eq_true ha) (of_decide_eq_true hb)
  -- Empty variables are left out before the search there and after it here: the name that goes to the setting is one.
  unfold Config.Environment.entries ofVariables
  rw [List.find?_map, List.find?_filter, Option.map_map, ← find?_and_of_pairwise hpair]
  congr 1
  refine List.find?_congr fun v _ => ?_
  simp only [Bool.decide_and, Bool.decide_eq_true, Function.comp_apply, variablePath]
  rfl

theorem map_fst_subset (hfound : ∀ name, environment.find? (·.1 == name) = environment'.find? (·.1 == name)) :
    environment.map (·.1) ⊆ environment'.map (·.1) := by
  intro name hname
  obtain ⟨v, hv, rfl⟩ := List.mem_map.mp hname
  have hsome : (environment.find? (·.1 == v.1)).isSome := List.find?_isSome.mpr ⟨v, hv, beq_self_eq_true v.1⟩
  rw [hfound, List.find?_isSome] at hsome
  obtain ⟨v', hv', heq⟩ := hsome
  exact List.mem_map.mpr ⟨v', hv', beq_iff_eq.mp heq⟩

/-- Variables of which the same are found by name say the same. -/
theorem ofVariables_congr (h : Orderly (environment'.map (·.1)))
    (hfound : ∀ name, environment.find? (·.1 == name) = environment'.find? (·.1 == name)) (s : Setting) :
    ofVariables environment s = ofVariables environment' s := by
  have hmem : ∀ v ∈ environment, ∃ v' ∈ environment', v'.1 = v.1 := fun v hv =>
    List.mem_map.mp (map_fst_subset hfound (List.mem_map_of_mem hv))
  have hsame : (environment.find? fun v => variablePath v.1 = s.path) =
      environment'.find? fun v => variablePath v.1 = s.path := by
    by_cases hex : ∃ v ∈ environment', variablePath v.1 = s.path
    · -- The names that go to the setting are those equal to one name.
      obtain ⟨v₀, hv₀, hpath⟩ := hex
      have hiff : ∀ v ∈ environment', decide (variablePath v.1 = s.path) = (v.1 == v₀.1) := by
        intro v hv
        rw [Bool.eq_iff_iff, decide_eq_true_eq, beq_iff_eq]
        constructor
        · intro hp
          exact h.one s _ (List.mem_map_of_mem hv) _ (List.mem_map_of_mem hv₀) hp hpath
        · intro hname
          rw [hname, hpath]
      rw [List.find?_congr hiff, ← hfound]
      refine List.find?_congr fun v hv => ?_
      obtain ⟨v', hv', hname⟩ := hmem v hv
      rw [← hname]
      exact hiff v' hv'
    · have hnone' : ∀ v ∈ environment', ¬ variablePath v.1 = s.path := fun v hv hp => hex ⟨v, hv, hp⟩
      have hnone : ∀ v ∈ environment, ¬ variablePath v.1 = s.path := by
        intro v hv
        obtain ⟨v', hv', hname⟩ := hmem v hv
        rw [← hname]
        exact hnone' v' hv'
      rw [List.find?_eq_none.mpr fun v hv => by simpa using hnone v hv,
        List.find?_eq_none.mpr fun v hv => by simpa using hnone' v hv]
  unfold ofVariables
  rw [hsame]

/-- The file of variables adds what it assigns. -/
theorem addVariablesFile_eq (environment files : List (String × String)) :
    addVariablesFile environment files = Config.EnvFile.addAll environment (addedVariables environment files) := by
  unfold addVariablesFile addedVariables
  cases files.find? (·.1 == variablesFile) with
  | none => rfl
  | some f => exact Config.EnvFile.addLines_eq_addAll _ _

/-! ### The configuration -/

theorem fileLayer_of_configFile? (h : configFile? files = some file) : fileLayer files = some file := by
  unfold configFile? at h
  unfold fileLayer
  split at h
  · rename_i text hfound
    have hfirst : fileNames.findSome? (fun f => (files.find? (·.1 == f.1)).map fun g => f.2 (withoutMark g.2)) =
        some (Config.Toml.parse (withoutMark text)) := by
      rw [fileNames, List.findSome?_cons, hfound]
      rfl
    rw [← h]
    exact congrArg (·.getD (some [])) hfirst
  · split at h
    · cases h
    · rename_i hnone
      have hno : fileNames.findSome? (fun f => (files.find? (·.1 == f.1)).map fun g => f.2 (withoutMark g.2)) =
          none := by
        rw [List.findSome?_eq_none_iff]
        intro f hf
        rw [Option.map_eq_none_iff, List.find?_eq_none]
        intro g hg hname
        exact hnone (List.any_eq_true.mpr ⟨f, hf, List.any_eq_true.mpr ⟨g, hg, hname⟩⟩)
      rw [← h]
      exact congrArg (·.getD (some [])) hno

theorem distinct_of_configFile? (h : configFile? files = some file) :
    (file.map (·.1)).Nodup ∧ ∀ e ∈ file, (e.2.entries.map (·.1)).Nodup := by
  unfold configFile? at h
  split at h
  · exact Config.Toml.parse_distinct h
  · split at h
    · cases h
    · cases h
      exact ⟨List.nodup_nil, fun e he => absurd he List.not_mem_nil⟩

theorem sectioned_defaults : Sectioned ((Value.table []).layer defaults) := by
  refine Sectioned.layer (fun s v hv => ?_) fun e he => ?_
  · cases hv
  · obtain ⟨s, -, rfl⟩ := List.mem_map.mp he
    rw [Setting.pathOf_key]
    exact clear_path s

theorem find?_defaults (s : Setting) : find? ((Value.table []).layer defaults) s = some s.default := by
  have hfold : (Value.table []).layer defaults =
      Setting.all.foldl (fun config s => config.alterAt (Value.onto s.default) s.path) (.table []) := by
    unfold Value.layer defaults
    rw [List.foldl_map]
    simp only [Setting.pathOf_key]
  rw [hfold]
  cases s <;> rfl

theorem find?_configuration (hnodup : (environment.map (·.1)).Nodup) (horderly : Orderly (environment.map (·.1)))
    (hitem : Itemless (environment.map (·.1))) (hfile : configFile? files = some file)
    (hsections : Sectioned (.table file)) (hplain : Plain (file.map (·.1))) :
    ∃ config, configuration environment files = some config ∧ ∀ s, find? config s =
      Value.layered (find? (.table file) s) (Value.layered (ofVariables environment s) (some s.default)) := by
  obtain ⟨hnames, hinner⟩ := distinct_of_configFile? hfile
  have hclear : ∀ e ∈ Config.Environment.entries environment, Clear (Config.pathOf e.1) := by
    intro e he
    obtain ⟨v, hv, rfl⟩ := List.mem_map.mp he
    exact horderly.clear hitem (List.mem_map_of_mem (List.mem_of_mem_filter hv))
  have hone : ∀ s : Setting, (Config.Environment.entries environment).Pairwise fun a b =>
      Config.pathOf a.1 = s.path → Config.pathOf b.1 ≠ s.path :=
    fun s => List.pairwise_map.mpr ((horderly.pairwise hnodup s).sublist List.filter_sublist)
  refine ⟨_, by rw [configuration, fileLayer_of_configFile? hfile]; rfl, fun s => ?_⟩
  rw [find?_layer_sections (sectioned_defaults.layer hclear) hnames hinner hsections hplain,
    find?_layer sectioned_defaults hclear (hone s), find?_entries horderly hnodup, find?_defaults]

/-! ### The settings -/

/-- What reads a value the same whatever it is put on reads the value that is picked. -/
theorem layered_bind_picked {α : Type} {read : Value → Option α} (h : ∀ v b, read (v.onto b) = read v)
    (vars : List (String × String)) (file : List (String × Value)) (s : Setting) :
    (Value.layered (find? (.table file) s) (Value.layered (ofVariables vars s) (some s.default))).bind read =
      read (picked vars file s) := by
  unfold picked
  rw [Value.layered_bind h]
  cases find? (.table file) s with
  | some v => rfl
  | none =>
    rw [Option.none_or, Option.none_or, Value.layered_bind h]
    cases ofVariables vars s with
    | some v => rfl
    | none => rfl

/-- Loading picks each setting by itself. It fails if one of the values that are picked is none that the setting can
have; else the settings hold what these values are read as, unless there is a complaint about one of them. The program
must not be stopped by a variable that cannot be set. -/
theorem load_by_setting (hnodup : (environment.map (·.1)).Nodup) (hset : Settable environment files)
    (horderly : Orderly ((allVariables environment files).map (·.1)))
    (hitem : Itemless ((allVariables environment files).map (·.1))) (hfile : configFile? files = some file)
    (hsections : Sectioned (.table file)) (hplain : Plain (file.map (·.1))) :
    (∃ s : Setting, s.read? (picked (allVariables environment files) file s) = none) ∧
        loadConfig environment files = some (.error .unreadable) ∨
      ∃ x : Settings, (∀ s : Setting, s.read? (picked (allVariables environment files) file s) = some (x.content s)) ∧
        loadConfig environment files =
          match Setting.all.findSome? fun s => s.complaint? (x.content s) with
          | some why => some (.error (.setup (.unusable why)))
          | none => some (.ok x) := by
  obtain ⟨environment', hadded⟩ := Option.isSome_iff_exists.mp ((Config.EnvFile.addAll_isSome_iff _ _).mpr hset)
  have hnodup' := Config.EnvFile.nodup_addAll hnodup hadded
  have hfound := Config.EnvFile.find?_addAll hadded
  have hsub := map_fst_subset hfound
  obtain ⟨config, hconfig, hfind⟩ := find?_configuration hnodup' (horderly.mono hsub) (fun n hn => hitem n (hsub hn))
    hfile hsections hplain
  have hread : ∀ s : Setting, (find? config s).bind s.read? =
      s.read? (picked (allVariables environment files) file s) := by
    intro s
    rw [hfind, ofVariables_congr horderly hfound, layered_bind_picked s.read?_onto]
  rw [loadConfig, addVariablesFile_eq, hadded, Option.map_some, load, hconfig, Option.bind_some]
  rcases ofConfig?_cases config with ⟨⟨s, hs⟩, hnone⟩ | ⟨x, hx, hsome⟩
  · rw [hnone]
    exact Or.inl ⟨⟨s, hread s ▸ hs⟩, rfl⟩
  · rw [hsome]
    refine Or.inr ⟨x, fun s => hread s ▸ hx s, ?_⟩
    show some (x.validate.mapError LoadError.setup) = _
    rw [validate_eq]
    cases Setting.all.findSome? fun s => s.complaint? (x.content s) with
    | none => rfl
    | some why => rfl

/-- A port from the environment, a level from the file of variables, and a variable there that an empty one keeps from
counting. -/
def variedEnvironment : List (String × String) :=
  [("SERVER_PORT", "8081"), ("TASKS_LIST_LIMIT", ""), ("PATH", "/bin")]

@[inherit_doc variedEnvironment] def variedFiles : List (String × String) :=
  [(".env", "TASKS_LIST_LIMIT=20\nLOGGING_LEVEL=debug\n"), ("config.toml", "[server]\nhost = \"127.0.0.1\"\n")]

/-- The entries of their `config.toml`. -/
def variedFile : List (String × Value) :=
  (configFile? variedFiles).getD []

/-- What is loaded from them. -/
def varied : Settings where
  databaseUrl := "scheduler.db"
  maxConnections := 4
  serverHost := "127.0.0.1"
  serverPort := 8081
  loggingLevel := "debug"
  webDir := "web"
  listLimit := 50

/-- Each setting comes from the layer that has it. -/
theorem load_by_setting_varied :
    (variedEnvironment.map (·.1)).Nodup ∧ Settable variedEnvironment variedFiles ∧
      Orderly ((allVariables variedEnvironment variedFiles).map (·.1)) ∧
      Itemless ((allVariables variedEnvironment variedFiles).map (·.1)) ∧ configFile? variedFiles = some variedFile ∧
      Sectioned (.table variedFile) ∧ Plain (variedFile.map (·.1)) ∧
      loadConfig variedEnvironment variedFiles = some (.ok varied) := by
  have hnodup : (variedEnvironment.map (·.1)).Nodup := by decide +kernel
  have hset : Settable variedEnvironment variedFiles := Config.EnvFile.settable_of_forall (by decide +kernel)
  have horderly : Orderly ((allVariables variedEnvironment variedFiles).map (·.1)) := by decide +kernel
  have hitem : Itemless ((allVariables variedEnvironment variedFiles).map (·.1)) := by decide +kernel
  have hfile : configFile? variedFiles = some variedFile := (Option.getD_of_ne_none (by decide +kernel) []).symm
  have hsections : Sectioned (.table variedFile) := by decide +kernel
  have hplain : Plain (variedFile.map (·.1)) := by decide +kernel
  have hread : ∀ s : Setting, s.read? (picked (allVariables variedEnvironment variedFiles) variedFile s) =
      some (varied.content s) := by decide +kernel
  refine ⟨hnodup, hset, horderly, hitem, hfile, hsections, hplain, ?_⟩
  rcases load_by_setting hnodup hset horderly hitem hfile hsections hplain with ⟨⟨s, hs⟩, -⟩ | ⟨x, hx, hload⟩
  · cases (hread s).symm.trans hs
  · have hvaried : x = varied := content_injective (funext fun s => Option.some.inj ((hx s).symm.trans (hread s)))
    have hfine : (Setting.all.findSome? fun s => s.complaint? (varied.content s)) = none := by decide +kernel
    rw [hload, hvaried, hfine]

/-- A variable whose name goes into an item of a group. -/
def itemEnvironment : List (String × String) :=
  [("server[0]", "x")]

/-- A `config.toml` with a name that goes to a setting by itself. -/
def quotedFiles : List (String × String) :=
  [("config.toml", "\"server.port\" = 8080\n")]

/-- A file of variables with a variable that cannot be set. -/
def unsettableFiles : List (String × String) :=
  [(".env", "NOTE=\x00\n")]

/-- The variable is in no setting's way, but the group becomes a list by it, which cannot be read; the port of the file
stands in no group and counts all the same; and a variable that goes to no setting at all stops the program. -/
theorem load_not_by_setting :
    ((itemEnvironment.map (·.1)).Nodup ∧ Orderly ((allVariables itemEnvironment []).map (·.1)) ∧
        configFile? [] = some [] ∧ Sectioned (.table []) ∧
        (∀ s : Setting, s.read? (picked (allVariables itemEnvironment []) [] s) = s.read? s.default) ∧
        (∀ s : Setting, s.read? s.default ≠ none) ∧
        loadConfig itemEnvironment [] = some (.error .unreadable)) ∧
      (Orderly ((allVariables [] quotedFiles).map (·.1)) ∧
        configFile? quotedFiles = some ((configFile? quotedFiles).getD []) ∧
        Sectioned (.table ((configFile? quotedFiles).getD [])) ∧
        Setting.serverPort.read?
          (picked (allVariables [] quotedFiles) ((configFile? quotedFiles).getD []) .serverPort) = some (.number 7540) ∧
        (loadConfig [] quotedFiles).map (·.map (·.serverPort)) = some (.ok 8080)) ∧
      Orderly ((allVariables [] unsettableFiles).map (·.1)) ∧ configFile? unsettableFiles = some [] ∧
        (∀ s : Setting, s.read? (picked (allVariables [] unsettableFiles) [] s) = s.read? s.default) ∧
        loadConfig [] unsettableFiles = none := by
  have hnone : configFile? [] = some [] := by simp [configFile?]
  have hother : configFile? unsettableFiles = some [] := by simp [configFile?, unsettableFiles, fileNames]
  have hquoted : configFile? quotedFiles = some ((configFile? quotedFiles).getD []) :=
    (Option.getD_of_ne_none (by decide +kernel) []).symm
  refine ⟨⟨?_, ?_, hnone, ?_, ?_, ?_, ?_⟩, ⟨?_, hquoted, ?_, ?_, ?_⟩, ?_, hother, ?_, ?_⟩
  all_goals decide +kernel

end Settings

end Agenda
