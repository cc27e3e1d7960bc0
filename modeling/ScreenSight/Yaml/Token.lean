/-!
# YAML tokens

The indentation of a text is told by tokens of its own: a block collection begins where the text is
indented further, and ends where it is indented less.
-/

namespace ScreenSight.Yaml

/-- A token of a text. -/
inductive Token where
  /-- The mark `---`. -/
  | documentStart
  /-- The mark `...`. -/
  | documentEnd
  /-- A block sequence begins. -/
  | sequenceStart
  /-- A block mapping begins. -/
  | mappingStart
  /-- A block sequence or mapping ends. -/
  | blockEnd
  /-- The bracket `[`. -/
  | flowSequenceStart
  /-- The bracket `]`. -/
  | flowSequenceEnd
  /-- The opening brace. -/
  | flowMappingStart
  /-- The closing brace. -/
  | flowMappingEnd
  /-- The dash before an item of a block sequence. -/
  | entry
  /-- The comma in a flow collection. -/
  | comma
  /-- A key of a mapping follows. -/
  | key
  /-- The colon before a value of a mapping. -/
  | value
  /-- A text; `plain` if it was written without quotes. -/
  | scalar (text : String) (plain : Bool)
  deriving DecidableEq

end ScreenSight.Yaml
