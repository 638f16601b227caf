import Agenda.Proofs.Config.Value
import Agenda.Proofs.Settings.Layer

/-!
# What the settings hold

Each setting holds a text, or a number up to its bound. Settings can be read from a configuration if each of them can,
and settings that are refused are refused for the first of them that is not usable.
-/

namespace Agenda

namespace Setting

/-- What a setting holds. -/
inductive Content where
  | text (s : String)
  | number (n : Nat)
deriving DecidableEq

/-- The settings that are texts. -/
def isText : Setting → Bool
  | databaseUrl | serverHost | loggingLevel | webDir => true
  | maxConnections | serverPort | listLimit => false

/-- A value as the content of a setting. -/
def read? (s : Setting) (v : Config.Value) : Option Content :=
  if s.isText then v.toText?.map .text else (v.toNat?.filter (· ≤ s.bound)).map .number

theorem read?_onto (s : Setting) (v b : Config.Value) : s.read? (v.onto b) = s.read? v := by
  unfold read?
  rw [Config.Value.toText?_onto, Config.Value.toNat?_onto]

/-- What is wrong with the content of a setting. -/
def complaint? : Setting → Content → Option String
  | databaseUrl, .text s => if Text.isBlankText s then some "database.url must not be empty" else none
  | maxConnections, .number n => if n = 0 then some "database.max_connections must be at least 1" else none
  | listLimit, .number n => if n = 0 then some "tasks.list_limit must be at least 1" else none
  | _, _ => none

/-- A complaint begins with the setting that it is about. -/
theorem key_prefix_of_complaint? {s : Setting} {content : Content} {why : String}
    (h : s.complaint? content = some why) : s.key.toList <+: why.toList := by
  unfold complaint? at h
  split at h
  · split at h
    · cases h
      decide +kernel
    · cases h
  · split at h
    · cases h
      decide +kernel
    · cases h
  · split at h
    · cases h
      decide +kernel
    · cases h
  · cases h

end Setting

namespace Settings

open Config (Value)

variable {config : Value}

/-- What each setting holds. -/
def content (x : Settings) : Setting → Setting.Content
  | .databaseUrl => .text x.databaseUrl
  | .maxConnections => .number x.maxConnections
  | .serverHost => .text x.serverHost
  | .serverPort => .number x.serverPort
  | .loggingLevel => .text x.loggingLevel
  | .webDir => .text x.webDir
  | .listLimit => .number x.listLimit

theorem content_injective : Function.Injective content := by
  intro x y h
  have hs := congrFun h
  cases x with
  | mk =>
    cases y with
    | mk =>
      simp only [Settings.mk.injEq]
      exact ⟨Setting.Content.text.inj (hs .databaseUrl), Setting.Content.number.inj (hs .maxConnections),
        Setting.Content.text.inj (hs .serverHost), Setting.Content.number.inj (hs .serverPort),
        Setting.Content.text.inj (hs .loggingLevel), Setting.Content.text.inj (hs .webDir),
        Setting.Content.number.inj (hs .listLimit)⟩

/-- What there is for a setting among texts and numbers. -/
def part (text? : Setting → Option String) (number? : Setting → Option Nat) (s : Setting) : Option Setting.Content :=
  if s.isText then (text? s).map .text else (number? s).map .number

/-- Settings cannot be put together if one of them is missing, and otherwise they hold what is there for each. -/
theorem assemble_cases (text? : Setting → Option String) (number? : Setting → Option Nat) :
    (∃ s, part text? number? s = none) ∧ assemble text? number? = none ∨
      ∃ x : Settings, (∀ s, part text? number? s = some (x.content s)) ∧ assemble text? number? = some x := by
  by_cases hall : ∀ s, part text? number? s ≠ none
  · have htext : ∀ s, s.isText = true → ∃ t, text? s = some t := by
      intro s hs
      obtain ⟨c, hc⟩ := Option.ne_none_iff_exists'.mp (hall s)
      rw [part, if_pos hs] at hc
      obtain ⟨t, ht, -⟩ := Option.map_eq_some_iff.mp hc
      exact ⟨t, ht⟩
    have hnumber : ∀ s, s.isText = false → ∃ n, number? s = some n := by
      intro s hs
      obtain ⟨c, hc⟩ := Option.ne_none_iff_exists'.mp (hall s)
      rw [part, if_neg (Bool.eq_false_iff.mp hs)] at hc
      obtain ⟨n, hn, -⟩ := Option.map_eq_some_iff.mp hc
      exact ⟨n, hn⟩
    obtain ⟨url, hurl⟩ := htext .databaseUrl rfl
    obtain ⟨connections, hconnections⟩ := hnumber .maxConnections rfl
    obtain ⟨host, hhost⟩ := htext .serverHost rfl
    obtain ⟨port, hport⟩ := hnumber .serverPort rfl
    obtain ⟨level, hlevel⟩ := htext .loggingLevel rfl
    obtain ⟨dir, hdir⟩ := htext .webDir rfl
    obtain ⟨limit, hlimit⟩ := hnumber .listLimit rfl
    refine Or.inr ⟨⟨url, connections, host, port, level, dir, limit⟩, fun s => ?_, ?_⟩
    · cases s <;> simp [part, Setting.isText, content, *]
    · simp [assemble, *]
  · obtain ⟨s, hs⟩ := not_forall_not.mp hall
    refine Or.inl ⟨⟨s, hs⟩, ?_⟩
    -- Whichever setting is missing, the ones before it may be missing too.
    cases s <;> simp_all [part, assemble, Setting.isText]

/-- The settings of a configuration cannot be read if one of them cannot, and otherwise they hold what each is read
as. -/
theorem ofConfig?_cases (config : Value) :
    (∃ s : Setting, (find? config s).bind s.read? = none) ∧ ofConfig? config = none ∨
      ∃ x : Settings, (∀ s : Setting, (find? config s).bind s.read? = some (x.content s)) ∧
        ofConfig? config = some x := by
  have hread : ∀ s : Setting, (find? config s).bind s.read? = part (fun s => (find? config s).bind Value.toText?)
      (fun s => ((find? config s).bind Value.toNat?).filter (· ≤ s.bound)) s := by
    intro s
    show _ = if s.isText then ((find? config s).bind Value.toText?).map Setting.Content.text
      else (((find? config s).bind Value.toNat?).filter (· ≤ s.bound)).map Setting.Content.number
    cases find? config s with
    | none => exact (ite_self _).symm
    | some v => rfl
  simp only [hread]
  exact assemble_cases _ _

/-- Settings are refused for the first of them that there is a complaint about. -/
theorem validate_eq (x : Settings) : x.validate =
    match Setting.all.findSome? fun s => s.complaint? (x.content s) with
    | some why => .error (.unusable why)
    | none => .ok x := by
  unfold validate
  simp only [Setting.all, List.findSome?_cons, List.findSome?_nil, content, Setting.complaint?]
  split
  · rfl
  · split
    · rfl
    · split
      · rfl
      · rfl

end Settings

end Agenda
