import TemplateEngine.Yaml.Property

/-! # Tokens of YAML

What a text is made of once its columns have been read: scalars with their properties, and the
signs that open, part and close collections. -/

namespace TemplateEngine.Yaml

inductive Token where
  | directive (directive : Directive)
  | documentStart
  | documentEnd
  /-- The start of a block list or of a block mapping, which a `blockEnd` closes. -/
  | listStart
  | mappingStart
  | blockEnd
  | flowListStart
  | flowListEnd
  | flowMappingStart
  | flowMappingEnd
  | comma
  /-- The hyphen before an item of a block list. -/
  | item
  /-- A key, or a value, comes next. -/
  | key
  | value
  /-- An anchor is a number, and a reference the number of the anchor that it refers to. -/
  | anchor (number : Nat)
  | reference (number : Nat)
  | tag (tag : Tag)
  | scalar (plain : Bool) (text : String)

end TemplateEngine.Yaml
