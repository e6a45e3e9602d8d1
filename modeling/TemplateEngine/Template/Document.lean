import TemplateEngine.Json.Reader
import TemplateEngine.Json.Writer
import TemplateEngine.Node.Lowering
import TemplateEngine.Node.Raising
import TemplateEngine.Template.Basic

/-! # Template documents

The form in which a template is stored: its name, its version and its stored tree. Blocks are not
stored, since they follow from the tree. -/

namespace TemplateEngine

structure Document where
  name : String
  version : String
  root : RawNode

namespace Document

/-- Without version the version is empty. -/
def ofJson? (limit : Nat) (json : Json) : Option Document := do
  let [name, version, root] ← json.record? ["name", "version", "root_node"] | none
  let name ← (← name).string?
  let version ← version.elim (some "") Json.string?
  let root ← RawNode.ofJson? (limit - 1) (← root)
  some ⟨name, version, root⟩

def read? (text : String) : Option Document := do
  ofJson? Json.nestingLimit (← Json.read? text)

def toJson (document : Document) : Json :=
  .object [(some "name", .string (some document.name)),
    (some "version", .string (some document.version)), (some "root_node", document.root.toJson)]

def toTemplate (document : Document) : Except NodeError Template := do
  let root ← document.root.lowerNode
  return { name := document.name, version := document.version, root }

def ofTemplate (template : Template) : Document :=
  ⟨template.name, template.version, RawNode.ofNode template.root⟩

end Document

end TemplateEngine
