import TestDouble.Config.Yaml.Spot

/-!
# Tokens of YAML

What a file consists of once its scalars have been read and its indentation has been understood:
lists and mappings have a beginning and an end, whether they are written with brackets or by
indentation.
-/

namespace TestDouble.Yaml

/-- A part of a file. -/
inductive Token where
  | version
  | shorthand (handle target : String)
  | documentStart
  | documentEnd
  | streamEnd
  | blockListStart
  | blockMappingStart
  /-- The end of a list or mapping that is written by indentation. -/
  | blockEnd
  | blockItem
  | flowListStart
  | flowListEnd
  | flowMappingStart
  | flowMappingEnd
  /-- The comma between items. -/
  | flowItem
  | key
  | value
  | anchor (name : String)
  | reference (name : String)
  | tag (handle suffix : String)
  /-- A scalar is plain if it has neither quotes nor another mark at its beginning. -/
  | scalar (plain : Bool) (text : String)
  deriving DecidableEq, Inhabited

end TestDouble.Yaml
