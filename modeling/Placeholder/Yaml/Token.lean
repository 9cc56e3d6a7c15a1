import Placeholder.Yaml.Tag

/-! # Tokens of a YAML text

A text is cut into tokens before its structure is read. Blocks that are shown by
indentation get tokens of their own where they begin and end, and so do keys and
values.
-/

namespace Placeholder.Yaml

/-- A token of a YAML text. -/
inductive Token where
  | directive (directive : Directive)
  | documentStart
  | documentEnd
  | blockSequence
  | blockMapping
  | blockEnd
  | flowSequence
  | flowSequenceEnd
  | flowMapping
  | flowMappingEnd
  | blockEntry
  | flowEntry
  | key
  | value
  | alias (name : String)
  | anchor (name : String)
  | tag (handle : String) (rest : Tag)
  | scalar (style : Style) (text : String)
deriving DecidableEq, Repr

end Placeholder.Yaml
