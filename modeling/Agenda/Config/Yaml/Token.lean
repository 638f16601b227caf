/-!
# The tokens of YAML

What a document is made of once its indentation has become brackets: block collections begin and end with tokens of
their own, and a token marks each name of a mapping.
-/

namespace Agenda.Config.Yaml

/-- A token. -/
inductive Token where
  /-- The version of the language, which does not matter. -/
  | version
  /-- A handle of tags and what it stands for. -/
  | handle (name meaning : String)
  | documentStart
  | documentEnd
  | blockSequence
  | blockMapping
  /-- The end of a block collection. -/
  | blockEnd
  | flowSequence
  | flowSequenceEnd
  | flowMapping
  | flowMappingEnd
  /-- An item of a block sequence begins. -/
  | blockEntry
  /-- A comma. -/
  | flowEntry
  /-- The name of an entry begins. -/
  | key
  /-- The value of an entry begins. -/
  | value
  | aliasTo (name : String)
  | anchor (name : String)
  | tag (handle suffix : String)
  /-- A scalar, without quotes or not. -/
  | scalar (plain : Bool) (text : String)
deriving DecidableEq

end Agenda.Config.Yaml
