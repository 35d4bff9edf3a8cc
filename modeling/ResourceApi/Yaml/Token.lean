/-
This file defines the tokens of YAML documents.
-/

namespace ResourceApi.Yaml

inductive ScalarStyle where
  | plain
  | singleQuoted
  | doubleQuoted
  | literal
  | folded
  deriving DecidableEq, Inhabited

/-- Indentation shows in the tokens that start and end block collections. -/
inductive Token where
  | documentStart
  | documentEnd
  | versionDirective (major minor : Nat)
  | tagDirective (handle start : String)
  | blockSequenceStart
  | blockMappingStart
  | blockEnd
  | flowSequenceStart
  | flowSequenceEnd
  | flowMappingStart
  | flowMappingEnd
  | blockEntry
  | flowEntry
  | key
  | value
  | alias (name : String)
  | anchor (name : String)
  | tag (handle suffix : String)
  | scalar (style : ScalarStyle) (content : String)
  deriving DecidableEq, Inhabited

end ResourceApi.Yaml
