import TemplateEngine.Dict
import TemplateEngine.Node.Error
import TemplateEngine.Node.Tree

/-! # Templates

A template is a named tree. Its blocks, gathered when it is registered, are what the yields of the
same names write when it is rendered. -/

namespace TemplateEngine

abbrev BlockMap := Dict (List Node)

structure Template where
  name : String
  version : String
  root : Node
  blocks : BlockMap := []

namespace BlockMap

mutual

/-- Records a block after the blocks directly inside it. A block directly inside a block named
`parent` has another name. -/
def record (parent : Option String) (blocks : BlockMap) : Node → Except NodeError BlockMap
  | .block name children =>
    if parent = some name then .error (.recursiveBlock name)
    else do
      let blocks ← recordAll (some name) blocks children
      return Dict.insert name children blocks
  | _ => .ok blocks

def recordAll (parent : Option String) (blocks : BlockMap) :
    List Node → Except NodeError BlockMap
  | [] => .ok blocks
  | node :: nodes => do
    let blocks ← record parent blocks node
    recordAll parent blocks nodes

end

end BlockMap

namespace Template

def markupVersion : String := "1"

def ofMarkup (name : String) (root : Node) : Template :=
  { name, version := markupVersion, root }

/-- The template with the blocks among the children of its root, and the blocks inside those. Of
blocks with one name the last recorded stays. -/
def scanBlocks (template : Template) : Except NodeError Template := do
  let blocks ← BlockMap.recordAll none [] template.root.children
  return { template with blocks }

end Template

end TemplateEngine
