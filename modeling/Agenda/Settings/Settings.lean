import Agenda.Config.Value
import Agenda.Json.Value
import Agenda.Settings.Error
import Agenda.Text.Blank

/-!
# Settings

Seven settings in five groups. Each is a text or a number up to a bound. Settings can be read from a configuration,
whose values are converted, and from a JSON value, whose values have to be of the right kind.
-/

namespace Agenda

/-- The settings of a server. -/
structure Settings where
  databaseUrl : String
  maxConnections : Nat
  serverHost : String
  serverPort : Nat
  loggingLevel : String
  webDir : String
  listLimit : Nat
deriving DecidableEq

/-- One of the settings. -/
inductive Setting where
  | databaseUrl
  | maxConnections
  | serverHost
  | serverPort
  | loggingLevel
  | webDir
  | listLimit
deriving DecidableEq

namespace Setting

/-- Every setting. -/
def all : List Setting :=
  [databaseUrl, maxConnections, serverHost, serverPort, loggingLevel, webDir, listLimit]

/-- The group of a setting. -/
def group : Setting → String
  | databaseUrl | maxConnections => "database"
  | serverHost | serverPort => "server"
  | loggingLevel => "logging"
  | webDir => "web"
  | listLimit => "tasks"

/-- The name of a setting in its group. -/
def name : Setting → String
  | databaseUrl => "url"
  | maxConnections => "max_connections"
  | serverHost => "host"
  | serverPort => "port"
  | loggingLevel => "level"
  | webDir => "dir"
  | listLimit => "list_limit"

/-- The place of a group among the groups. -/
def groupPlace : Setting → Nat
  | databaseUrl | maxConnections => 0
  | serverHost | serverPort => 1
  | loggingLevel => 2
  | webDir => 3
  | listLimit => 4

/-- The place of a setting in its group. -/
def place : Setting → Nat
  | maxConnections | serverPort => 1
  | _ => 0

/-- The number of settings in the group of a setting. -/
def groupSize : Setting → Nat
  | databaseUrl | maxConnections | serverHost | serverPort => 2
  | _ => 1

/-- The greatest number that a setting can be; a text has none. -/
def bound : Setting → Nat
  | maxConnections => 255
  | serverPort => 65535
  | listLimit => 4294967295
  | _ => 0

/-- The path of a setting. -/
def key (s : Setting) : String :=
  s.group ++ "." ++ s.name

/-- The value of a setting that nothing sets. -/
def default : Setting → Config.Value
  | databaseUrl => .text "scheduler.db"
  | maxConnections => .int 4
  | serverHost => .text "0.0.0.0"
  | serverPort => .int 7540
  | loggingLevel => .text "info"
  | webDir => .text "web"
  | listLimit => .int 50

end Setting

namespace Settings

/-- The address that the server listens on. -/
def bindAddress (s : Settings) : String :=
  s.serverHost ++ ":" ++ String.ofList (Number.natText s.serverPort)

/-- Refuses settings that leave the server unable to work, naming the first of them. -/
def validate (s : Settings) : Except SetupError Settings :=
  if Text.isBlankText s.databaseUrl then .error (.unusable "database.url must not be empty")
  else if s.maxConnections = 0 then .error (.unusable "database.max_connections must be at least 1")
  else if s.listLimit = 0 then .error (.unusable "tasks.list_limit must be at least 1")
  else .ok s

/-- Settings put together from the text or the number of each. -/
def assemble (text? : Setting → Option String) (number? : Setting → Option Nat) : Option Settings := do
  return {
    databaseUrl := ← text? .databaseUrl
    maxConnections := ← number? .maxConnections
    serverHost := ← text? .serverHost
    serverPort := ← number? .serverPort
    loggingLevel := ← text? .loggingLevel
    webDir := ← text? .webDir
    listLimit := ← number? .listLimit }

/-! ### From a configuration -/

/-- The value of a setting in a configuration. A group may also be a list of values in order. -/
def find? (config : Config.Value) (s : Setting) : Option Config.Value :=
  match config.get? s.group with
  | some (.table es) => (Config.Value.table es).get? s.name
  | some (.list vs) => vs[s.place]?
  | _ => none

/-- The settings of a configuration. -/
def ofConfig? (config : Config.Value) : Option Settings :=
  assemble (fun s => (find? config s).bind Config.Value.toText?)
    (fun s => ((find? config s).bind Config.Value.toNat?).filter (· ≤ s.bound))

/-! ### From a JSON value -/

/-- A member of an object, or the item of an array that has so many. -/
def part? (v : Json.Value) (name : String) (place size : Nat) : Option Json.Value :=
  match v with
  | .object members => (members.find? (·.1 == some name)).map (·.2)
  | .array items => if items.length = size then items[place]? else none
  | _ => none

/-- The value of a setting in a JSON value. -/
def findStrict? (v : Json.Value) (s : Setting) : Option Json.Value :=
  (part? v s.group s.groupPlace 5).bind fun g => part? g s.name s.place s.groupSize

/-- The settings of a JSON value. -/
def ofJson? (v : Json.Value) : Option Settings :=
  assemble
    (fun s =>
      match findStrict? v s with
      | some (.string text) => text
      | _ => none)
    (fun s =>
      match findStrict? v s with
      | some (.number n) => (n.toInt?.filter fun (i : Int) => 0 ≤ i && i ≤ s.bound).map Int.toNat
      | _ => none)

end Settings

end Agenda
