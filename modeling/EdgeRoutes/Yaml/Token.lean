import EdgeRoutes.Yaml.Node

namespace EdgeRoutes.Yaml

/-- The pieces of a YAML stream. Indentation shows as the start and end of block collections, and
the key of a mapping is marked even where its text has no mark. -/
inductive Token where
  | streamEnd
  | versionDirective (major minor : Nat)
  | tagDirective (handle stem : String)
  | documentStart
  | documentEnd
  | blockSequenceStart
  | blockMappingStart
  | blockEnd
  | flowSequenceStart
  | flowSequenceEnd
  | flowMappingStart
  | flowMappingEnd
  | blockEntry
  | flowEntry
  | key
  | value
  | alias (name : String)
  | anchor (name : String)
  | tag (handle suffix : String)
  | scalar (text : String) (style : Style)
deriving DecidableEq, Repr

end EdgeRoutes.Yaml
