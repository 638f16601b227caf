import Agenda.Config.EnvFile
import Agenda.Config.Environment
import Agenda.Config.JsonFile
import Agenda.Config.Toml.Document
import Agenda.Config.Yaml.Document
import Agenda.Settings.Settings

/-!
# Loading the settings

Three layers make up the configuration: the defaults, the environment on top of them, and a file on top of that. A
file of variables can add to the environment before.
-/

namespace Agenda

/-- Why settings cannot be loaded. -/
inductive LoadError where
  /-- A file is malformed, or a setting has a value that it cannot be. -/
  | unreadable
  /-- A setting would leave the server unable to work. -/
  | setup (cause : SetupError)
deriving DecidableEq

namespace Settings

/-- A text without the mark that may stand before it. -/
def withoutMark (text : String) : String :=
  match text.toList with
  | '\uFEFF' :: cs => String.ofList cs
  | _ => text

/-- The names of the file, in the order in which they are tried, with the format of each. -/
def fileNames : List (String × (String → Option (List (String × Config.Value)))) :=
  [("config.toml", Config.Toml.parse), ("config.toml.toml", Config.Toml.parse), ("config.toml.json", Config.JsonFile.parse),
    ("config.toml.yaml", Config.Yaml.parse), ("config.toml.yml", Config.Yaml.parse)]

/-- The layer of the file; without a file it is empty, and a malformed file has none. -/
def fileLayer (files : List (String × String)) : Option (List (String × Config.Value)) :=
  let found := fileNames.findSome? fun (name, parse) =>
    (files.find? (·.1 == name)).map fun (_, text) => parse (withoutMark text)
  found.getD (some [])

/-- The layer of the defaults. -/
def defaults : List (String × Config.Value) :=
  Setting.all.map fun s => (s.key, s.default)

/-- The configuration of an environment and files. -/
def configuration (environment files : List (String × String)) : Option Config.Value :=
  (fileLayer files).map fun file =>
    (((Config.Value.table []).layer defaults).layer (Config.Environment.entries environment)).layer file

/-- The settings of an environment and files. -/
def load (environment files : List (String × String)) : Except LoadError Settings :=
  match (configuration environment files).bind ofConfig? with
  | none => .error .unreadable
  | some settings => settings.validate.mapError LoadError.setup

/-- The name of the file of variables. -/
def variablesFile : String := ".env"

/-- The environment after the file of variables has added to it. There is none if the program stops at a variable that
cannot be set. -/
def addVariablesFile (environment files : List (String × String)) : Option (List (String × String)) :=
  match files.find? (·.1 == variablesFile) with
  | some (_, text) => Config.EnvFile.addFile environment text
  | none => some environment

/-- The settings of an environment and files, after the file of variables has added to the environment. There is no
answer, not even an error, if the program stops. -/
def loadConfig (environment files : List (String × String)) : Option (Except LoadError Settings) :=
  (addVariablesFile environment files).map fun environment => load environment files

/-- The same where a stop counts as a file that cannot be read. -/
def loadWithVariablesFile (environment files : List (String × String)) : Except LoadError Settings :=
  (loadConfig environment files).getD (.error .unreadable)

end Settings

end Agenda
