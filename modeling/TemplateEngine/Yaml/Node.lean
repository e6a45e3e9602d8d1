import TemplateEngine.Yaml.Token

/-! # Nodes of YAML

A document is a tree of scalars, lists and mappings, in which a node can stand for another one.
-/

namespace TemplateEngine.Yaml

/-- What can stand before a node. A tag is an address. -/
structure Properties where
  anchor : Option Nat := none
  tag : Option ByteArray := none

inductive Node where
  | reference (number : Nat)
  | scalar (properties : Properties) (plain : Bool) (text : String)
  | list (properties : Properties) (items : List Node)
  | mapping (properties : Properties) (fields : List (Node × Node))

namespace Node

/-- What stands where nothing is written. -/
def empty : Node :=
  .scalar {} true ""

def properties : Node → Properties
  | .reference _ => {}
  | .scalar properties _ _ | .list properties _ | .mapping properties _ => properties

mutual

/-- A node and all below it, in the order in which they start. -/
def all : Node → List Node
  | .reference number => [.reference number]
  | .scalar properties plain text => [.scalar properties plain text]
  | .list properties items => .list properties items :: allItems items
  | .mapping properties fields => .mapping properties fields :: allFields fields

def allItems : List Node → List Node
  | [] => []
  | item :: items => item.all ++ allItems items

def allFields : List (Node × Node) → List Node
  | [] => []
  | (key, value) :: fields => key.all ++ value.all ++ allFields fields

end

end Node

end TemplateEngine.Yaml
