/-! The tokens of YAML. Blocks, which the text shows by indentation, have tokens for their starts and
ends as the collections between brackets have. -/

namespace Templating.Yaml

inductive Token where
  | documentStart
  | documentEnd
  | blockList
  | blockMap
  /-- The end of the list or the map in a block that was opened last. -/
  | blockEnd
  | flowList
  | flowListEnd
  | flowMap
  | flowMapEnd
  /-- The dash before an item. -/
  | dash
  | comma
  /-- A key follows. No character need stand for it. -/
  | key
  /-- The colon before a value. -/
  | value
  | scalar (text : String) (plain : Bool)
  | textEnd
  deriving DecidableEq, Repr

end Templating.Yaml
