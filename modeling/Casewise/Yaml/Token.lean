import Casewise.Yaml.Tag

/-!
# Tokens of a YAML text

A text is cut into indicators, properties and scalars. Indentation has become explicit: a block
collection has a token where it starts and one where it ends, and a key has one in front of it.
-/

namespace Casewise.Yaml

/-- The parts of a YAML text. -/
inductive Token where
  | version (major minor : Nat)
  /-- a shorthand for the start of tags -/
  | tagDirective (handle : String) (start : TagText)
  | documentStart
  | documentEnd
  | blockSequence
  | blockMapping
  | blockEnd
  | flowSequence
  | flowSequenceEnd
  | flowMapping
  | flowMappingEnd
  /-- the hyphen before an item of a block sequence -/
  | item
  /-- the comma in a flow collection -/
  | separator
  | key
  | value
  | alias (name : String)
  | anchor (name : String)
  | tag (handle : String) (suffix : TagText)
  /-- a scalar with its lines joined; a plain one has no quotes and no block header -/
  | scalar (text : String) (plain : Bool)
deriving DecidableEq

end Casewise.Yaml
