import Agenda.Proofs.Config.Environment
import Agenda.Proofs.Settings.Load

/-!
# Settings from single variables

A variable with the name of a setting, in capitals and with an underscore for the dot, goes to the setting if the name
of the setting is a single word; an underscore within the name divides it like the one behind the group, and the
variable goes nowhere. A number that reaches its setting is taken as it is, and a text is if it is no other spelling of
a truth value or a number.
-/

namespace Agenda

namespace Setting

/-- The variable that is named like a setting. -/
def variableName (s : Setting) : String :=
  s.key.map fun c => if c = '.' then '_' else c.toUpper

/-- The name of the setting has no underscore. -/
def isOneWord (s : Setting) : Bool :=
  !s.name.toList.contains '_'

/-- The text writes the content: a text is itself, and a number in range is its digits. -/
def Writes (s : Setting) (v : String) : Content → Prop
  | .text t => s.isText = true ∧ v = t
  | .number n => s.isText = false ∧ n ≤ s.bound ∧ v = String.ofList (Number.natText n)

end Setting

namespace Settings

open Config (Value Environment.value)

variable {environment files : List (String × String)} {s s' : Setting} {v : String}

/-! ### Loading what is known to be readable -/

/-- The settings that nothing sets. -/
def standard : Settings where
  databaseUrl := "scheduler.db"
  maxConnections := 4
  serverHost := "0.0.0.0"
  serverPort := 7540
  loggingLevel := "info"
  webDir := "web"
  listLimit := 50

theorem read?_default (s : Setting) : s.read? s.default = some (standard.content s) := by
  cases s <;> rfl

theorem complaint?_standard (s : Setting) : s.complaint? (standard.content s) = none := by
  cases s <;> decide

/-- A configuration of which every setting can be read without a complaint is loaded as that. -/
theorem exists_load {config : Value} (hconfig : configuration environment files = some config)
    (content : Setting → Setting.Content) (hread : ∀ s : Setting, (find? config s).bind s.read? = some (content s))
    (hfine : ∀ s : Setting, s.complaint? (content s) = none) :
    ∃ x : Settings, load environment files = .ok x ∧ ∀ s, x.content s = content s := by
  rcases ofConfig?_cases config with ⟨⟨s, hs⟩, -⟩ | ⟨x, hx, hsome⟩
  · rw [hread] at hs
    cases hs
  · have hcontent : ∀ s, x.content s = content s := fun s => Option.some.inj ((hx s).symm.trans (hread s))
    have hnone : (Setting.all.findSome? fun s => s.complaint? (x.content s)) = none :=
      List.findSome?_eq_none_iff.mpr fun s _ => hcontent s ▸ hfine s
    refine ⟨x, ?_, hcontent⟩
    rw [load, hconfig, Option.bind_some, hsome]
    show x.validate.mapError LoadError.setup = _
    rw [validate_eq, hnone]
    rfl

/-- Files of other names make up no file of the settings. -/
theorem configFile?_of_forall_ne (h : ∀ f ∈ files, ∀ g ∈ fileNames, f.1 ≠ g.1) : configFile? files = some [] := by
  have hnone : files.find? (·.1 == "config.toml") = none := by
    rw [List.find?_eq_none]
    intro f hf hname
    exact h f hf ("config.toml", Config.Toml.parse) List.mem_cons_self (beq_iff_eq.mp hname)
  have hany : ¬(fileNames.any fun g => files.any (·.1 == g.1)) = true := by
    intro hany
    obtain ⟨g, hg, hany⟩ := List.any_eq_true.mp hany
    obtain ⟨f, hf, hname⟩ := List.any_eq_true.mp hany
    exact h f hf g hg (beq_iff_eq.mp hname)
  unfold configFile?
  rw [hnone]
  exact if_neg hany

/-! ### Where the variable goes -/

theorem orderly_variableName (s : Setting) : Orderly [s.variableName] ∧ Itemless [s.variableName] := by
  revert s
  decide +kernel

/-- The variable of a setting goes to that setting, or to none. -/
theorem variablePath_variableName (s s' : Setting) : variablePath s.variableName = s'.path ↔ s' = s ∧ s.isOneWord = true := by
  revert s s'
  decide +kernel

theorem picked_variable (hne : v ≠ "") (s s' : Setting) :
    picked [(s.variableName, v)] [] s' = if s' = s ∧ s.isOneWord = true then Environment.value v else s'.default := by
  have hfile : find? (.table []) s' = none := find?_table_eq_none List.not_mem_nil
  unfold picked ofVariables
  rw [hfile, Option.none_or, List.find?_singleton]
  by_cases hpath : s' = s ∧ s.isOneWord = true
  · rw [if_pos hpath, if_pos (decide_eq_true ((variablePath_variableName s s').mpr hpath)), Option.filter_some,
      if_pos (decide_eq_true hne)]
    rfl
  · rw [if_neg hpath, if_neg fun h => hpath ((variablePath_variableName s s').mp (of_decide_eq_true h))]
    rfl

/-! ### What the setting becomes -/

theorem eq_serverPort (hword : s.isOneWord = true) (htext : s.isText = false) : s = .serverPort := by
  revert s
  decide +kernel

/-- What a setting of one word makes of a variable that writes fine content for it: some content that is fine too, and
the same unless a text is not plain. -/
theorem exists_read?_value {content : Setting.Content} (hword : s.isOneWord = true) (hwrites : s.Writes v content)
    (hfine : s.complaint? content = none) :
    ∃ c, s.read? (Environment.value v) = some c ∧ s.complaint? c = none ∧
      (c = content ↔ (s.isText = true → Config.Environment.Plain v)) := by
  cases content with
  | text t =>
    obtain ⟨htext, rfl⟩ := hwrites
    obtain ⟨t, ht, hshown⟩ := Config.Environment.exists_toText?_value v
    refine ⟨.text t, ?_, ?_, ?_⟩
    · rw [Setting.read?, if_pos htext, ht]
      rfl
    · cases s with
      | databaseUrl =>
        have hv : Text.isBlankText v = false := by
          by_contra hblank
          simp [Setting.complaint?, hblank] at hfine
        simp [Setting.complaint?, hshown hv]
      | maxConnections | serverHost | serverPort | loggingLevel | webDir | listLimit => rfl
    · rw [← Config.Environment.toText?_value_iff, ht, Setting.Content.text.injEq, Option.some.injEq]
      exact ⟨fun h _ => h, fun h => h htext⟩
  | number n =>
    obtain ⟨htext, hle, rfl⟩ := hwrites
    obtain rfl := eq_serverPort hword htext
    refine ⟨.number n, ?_, rfl, ?_⟩
    · have hle : n ≤ 65535 := hle
      rw [Config.Environment.value_natText (by omega)]
      simp [Setting.read?, Setting.isText, Config.Value.toNat?, Setting.bound, hle]
    · exact iff_of_true rfl fun h => absurd h Bool.false_ne_true

/-- A variable that is named like a setting and writes content for it, on its own, always loads, and leaves the other
settings as they are. A setting whose name is one word becomes what its variable is read as, which is that content
unless it is a text that is not plain. -/
theorem load_variable {content : Setting.Content} (hwrites : s.Writes v content) (hne : v ≠ "")
    (hfine : s.complaint? content = none) (hfiles : ∀ f ∈ files, ∀ g ∈ fileNames, f.1 ≠ g.1) :
    ∃ x, load [(s.variableName, v)] files = .ok x ∧ (∀ s', s' ≠ s → x.content s' = standard.content s') ∧
      (s.isOneWord = true → s.read? (Environment.value v) = some (x.content s) ∧
        (x.content s = content ↔ (s.isText = true → Config.Environment.Plain v))) := by
  have hnodup : ([(s.variableName, v)].map (·.1)).Nodup := List.nodup_singleton _
  have horderly : Orderly ([(s.variableName, v)].map (·.1)) := (orderly_variableName s).1
  have hitem : Itemless ([(s.variableName, v)].map (·.1)) := (orderly_variableName s).2
  have hfile : configFile? files = some [] := configFile?_of_forall_ne hfiles
  have hsections : Sectioned (.table []) := by decide +kernel
  have hplain : Plain (([] : List (String × Value)).map (·.1)) := by decide +kernel
  obtain ⟨config, hconfig, hfind⟩ := find?_configuration hnodup horderly hitem hfile hsections hplain
  have hread : ∀ s' : Setting, (find? config s').bind s'.read? =
      if s' = s ∧ s.isOneWord = true then s.read? (Environment.value v) else some (standard.content s') := by
    intro s'
    rw [hfind, layered_bind_picked s'.read?_onto, picked_variable hne]
    split
    · rename_i h
      rw [h.1]
    · exact read?_default s'
  cases hword : s.isOneWord with
  | true =>
    obtain ⟨c, hc, hcfine, hciff⟩ := exists_read?_value hword hwrites hfine
    obtain ⟨x, hload, hcontent⟩ := exists_load hconfig (fun s' => if s' = s then c else standard.content s')
      (fun s' => by
        rw [hread, hword, hc]
        by_cases hs : s' = s <;> simp [hs])
      (fun s' => by
        by_cases hs : s' = s
        · simp [hs, hcfine]
        · simp [hs, complaint?_standard])
    have hs : x.content s = c := (hcontent s).trans (if_pos rfl)
    refine ⟨x, hload, fun s' hs' => (hcontent s').trans (if_neg hs'), fun _ => ?_⟩
    rw [hs]
    exact ⟨hc, hciff⟩
  | false =>
    obtain ⟨x, hload, hcontent⟩ := exists_load hconfig standard.content
      (fun s' => (hread s').trans (if_neg (by simp [hword]))) complaint?_standard
    exact ⟨x, hload, fun s' _ => hcontent s', fun h => absurd h Bool.false_ne_true⟩

/-- A file of variables, which does not count here. -/
def publicFiles : List (String × String) :=
  [(".env", "WEB_DIR=site\n")]

/-- The directory of web files is set by its variable. -/
theorem load_variable_public :
    Setting.webDir.variableName = "WEB_DIR" ∧ Setting.webDir.Writes "public" (.text "public") ∧ "public" ≠ "" ∧
      Setting.webDir.complaint? (.text "public") = none ∧ (∀ f ∈ publicFiles, ∀ g ∈ fileNames, f.1 ≠ g.1) ∧
      Config.Environment.Ordinary "public" ∧
      ∃ x, load [("WEB_DIR", "public")] publicFiles = .ok x ∧ x.content .webDir = .text "public" ∧
        ∀ s, s ≠ .webDir → x.content s = standard.content s := by
  have hname : Setting.webDir.variableName = "WEB_DIR" := by decide +kernel
  have hwrites : Setting.webDir.Writes "public" (.text "public") := ⟨rfl, rfl⟩
  have hne : "public" ≠ "" := by decide
  have hfiles : ∀ f ∈ publicFiles, ∀ g ∈ fileNames, f.1 ≠ g.1 := by decide +kernel
  have hordinary : Config.Environment.Ordinary "public" := ⟨⟨'p', by decide +kernel⟩, by decide +kernel⟩
  obtain ⟨x, hload, hothers, hset⟩ := load_variable hwrites hne rfl hfiles
  rw [hname] at hload
  exact ⟨hname, hwrites, hne, rfl, hfiles, hordinary, x, hload, (hset (by decide)).2.mpr fun _ => hordinary.plain, hothers⟩

/-- The variables of settings with an underscore in their names go nowhere, and a text that is another spelling of a
number becomes that number's usual one. -/
theorem load_not_variable :
    (Setting.listLimit.variableName = "TASKS_LIST_LIMIT" ∧ Setting.listLimit.Writes "20" (.number 20) ∧
        Setting.listLimit.complaint? (.number 20) = none ∧ load [("TASKS_LIST_LIMIT", "20")] [] = .ok standard ∧
        standard.content .listLimit ≠ .number 20) ∧
      (Setting.maxConnections.variableName = "DATABASE_MAX_CONNECTIONS" ∧
        Setting.maxConnections.Writes "8" (.number 8) ∧ Setting.maxConnections.complaint? (.number 8) = none ∧
        load [("DATABASE_MAX_CONNECTIONS", "8")] [] = .ok standard ∧
        standard.content .maxConnections ≠ .number 8) ∧
      Setting.databaseUrl.variableName = "DATABASE_URL" ∧ Setting.databaseUrl.Writes "007" (.text "007") ∧
        Setting.databaseUrl.complaint? (.text "007") = none ∧
        load [("DATABASE_URL", "007")] [] = .ok { standard with databaseUrl := "7" } := by
  have hlimit : Setting.listLimit.Writes "20" (.number 20) := ⟨rfl, by decide, by decide⟩
  have hconnections : Setting.maxConnections.Writes "8" (.number 8) := ⟨rfl, by decide, by decide⟩
  have hurl : Setting.databaseUrl.Writes "007" (.text "007") := ⟨rfl, rfl⟩
  refine ⟨⟨?_, hlimit, rfl, ?_, ?_⟩, ⟨?_, hconnections, rfl, ?_, ?_⟩, ?_, hurl, ?_, ?_⟩
  all_goals decide +kernel

end Settings

end Agenda
