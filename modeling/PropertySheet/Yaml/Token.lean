/-!
# Tokens of a YAML text

The indicators of a YAML text, with the starts and ends of blocks that its indentation stands for.
-/

namespace PropertySheet.Yaml

/-- How a scalar is written, as far as its meaning depends on it. -/
inductive ScalarStyle where
  | plain
  /-- After `|`. -/
  | literal
  /-- Quoted, or after `>`. -/
  | other
deriving DecidableEq, Repr, Inhabited

inductive Token where
  | version (major minor : Nat)
  | tagDirective (handle expansion : String)
  | documentStart
  | documentEnd
  | blockSequenceStart
  | blockMappingStart
  | blockEnd
  | flowSequenceStart
  | flowSequenceEnd
  | flowMappingStart
  | flowMappingEnd
  | blockEntry
  | flowEntry
  | key
  | value
  | alias (name : String)
  | anchor (name : String)
  | tag (handle suffix : String)
  | scalar (text : String) (style : ScalarStyle)
deriving DecidableEq, Repr, Inhabited

end PropertySheet.Yaml
