import TemplateEngine.Yaml.Layout
import TemplateEngine.Yaml.Node.Grammar
import TemplateEngine.Yaml.Scalar

/-! # Reading YAML

The value of a text: the values of the scalars in its tree, with references replaced by what they
refer to. How deep collections nest and how often references are followed is limited, so that a
small text has no huge value. -/

namespace TemplateEngine.Yaml

/-- How deep lists and mappings may nest. -/
def nestingLimit : Nat := 128

/-- How many references may be followed for each part of a document. -/
def referenceLimit : Nat := 100

namespace Node

/-- A collection counts twice, for its start and its end. -/
def size : Node → Nat
  | .reference _ | .scalar .. => 1
  | .list .. | .mapping .. => 2

/-- The nodes with anchors, the last first. -/
def definitions (node : Node) : List (Nat × Node) :=
  (node.all.filterMap fun inner => inner.properties.anchor.map (·, inner)).reverse

/-- Values are found with a number of references that may still be followed. -/
abbrev Resolve (α : Type) := StateT Nat Option α

/-- What a node stands for: a reference stands for the last node with its number. -/
def follow (definitions : List (Nat × Node)) : Node → Resolve Node
  | .reference number => do
    match ← get, definitions.lookup number with
    | left + 1, some node => do
      set left
      return node
    | _, _ => failure
  | node => return node

/-- A tag of one's own has no value. It starts with an exclamation mark. -/
def isOwnTag (tag : ByteArray) : Bool :=
  tag[0]? = some 0x21 && (String.fromUTF8? tag).isSome

/-- The value of a scalar. A tag that is no text leaves it as if there were none, or a string. -/
def scalarValue? (tag : Option ByteArray) (plain : Bool) (text : String) : Option Value :=
  match tag with
  | none => if plain then plainValue? text else some (.string text)
  | some tag =>
    if isOwnTag tag then none
    else if plain && tag[0]? = some 0x21 then plainValue? text
    else taggedValue? ((String.fromUTF8? tag).getD "") text

/-- A key is the text of a scalar, whatever its value. -/
def key (definitions : List (Nat × Node)) (node : Node) : Resolve String := do
  match ← follow definitions node with
  | .scalar _ _ text => return text
  | _ => failure

/-- The value of a node with at most `depth` levels of collections. Of fields with one key the last
counts. -/
def value (definitions : List (Nat × Node)) (depth : Nat) (node : Node) : Resolve Value := do
  match ← follow definitions node, depth with
  | .scalar properties plain text, _ => StateT.lift (scalarValue? properties.tag plain text)
  | .list properties items, depth + 1 =>
    if properties.tag.any isOwnTag then failure
    else return .array (← items.mapM (value definitions depth))
  | .mapping properties fields, depth + 1 =>
    if properties.tag.any isOwnTag then failure
    else return .object (← fields.foldlM (fun dict (name, field) => do
      let name ← key definitions name
      let field ← value definitions depth field
      return Dict.insert name field dict) [])
  | _, _ => failure

def value? (node : Node) : Option Value :=
  let limit := referenceLimit * node.all.foldl (fun total part => total + part.size) 0
  ((node.value node.definitions nestingLimit).run limit).map Prod.fst

end Node

/-- The value of a text. A text without document is null. -/
def read? (text : String) : Option Value := do
  match ← Node.ofTokens? (← tokens? text) with
  | none => some .null
  | some node => node.value?

end TemplateEngine.Yaml
