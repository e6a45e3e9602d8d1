import TemplateEngine.Proofs.Node.Lowered
import TemplateEngine.Proofs.Template.Registration

/-! # Exported templates

A template that was loaded from a document can be written as a document again. The new document has
every list of children, also the empty ones, and is read nevertheless. -/

namespace TemplateEngine

open Json (Layout)

namespace RawNode

mutual

theorem height_erase_le : ∀ raw : RawNode, raw.erase.height ≤ raw.height
  | ⟨kind, text, children⟩ => by
    rw [erase, height, height]
    have hchildren : heights (if kind.usesChildren then eraseAll children else []) ≤
        heights children := by
      split
      · exact heights_eraseAll_le children
      · exact Nat.zero_le _
    exact Nat.succ_le_succ hchildren

theorem heights_eraseAll_le : ∀ children : List RawNode,
    heights (eraseAll children) ≤ heights children
  | [] => Nat.le_refl 0
  | child :: children => by
    rw [eraseAll, heights, heights]
    exact max_le_max (height_erase_le child) (heights_eraseAll_le children)

end

end RawNode

/-- What a document is loaded as: the template of its tree, with the blocks of that tree. -/
structure Document.LoadsAs (document : Document) (template : Template) : Prop where
  name : template.name = document.name
  version : template.version = document.version
  lowered : document.root.lowerNode = .ok template.root
  scanned : template.IsScanned

namespace Document.LoadsAs

variable {document : Document} {template : Template}

theorem isValid (h : document.LoadsAs template) : template.root.IsValid :=
  (RawNode.lowerNode_sound document.root h.lowered).2.1

/-- The template is stored as the document it comes from, without what is not used. -/
theorem ofTemplate_eq (h : document.LoadsAs template) :
    ofTemplate template = ⟨document.name, document.version, document.root.erase⟩ := by
  have hroot := (RawNode.lowerNode_sound document.root h.lowered).2.2
  rw [ofTemplate, h.name, h.version, hroot]

theorem height_le (h : document.LoadsAs template) (hdocument : document.root.height ≤ 63) :
    (RawNode.ofNode template.root).height ≤ 63 := by
  rw [(RawNode.lowerNode_sound document.root h.lowered).2.2]
  exact (RawNode.height_erase_le document.root).trans hdocument

end Document.LoadsAs

namespace Engine

theorem addTemplate_of_isScanned (engine : Engine) {template : Template}
    (h : template.IsScanned) : engine.addTemplate template = .ok (engine.holding template) := by
  rw [addTemplate, Store.add, h]
  rfl

/-- A text that is accepted is a document, and the engine holds what it is loaded as. -/
theorem loadsAs_of_addDocument {engine loaded : Engine} {text : String}
    (h : engine.addDocument text = .ok loaded) :
    ∃ document template, Document.read? text = some document ∧ document.LoadsAs template ∧
      loaded = engine.holding template := by
  obtain ⟨template, hregisters⟩ | ⟨error, hrefused⟩ :=
    (Registration.document text).registers_or_refused
  · have hheld := engine.register_of_registers hregisters
    rw [register, h] at hheld
    obtain rfl := Except.ok.inj hheld
    obtain ⟨given, hgives, hscan⟩ := hregisters
    cases hgives with
    | @document _ name version raw root hread hlower =>
      have htemplate := (Template.scanBlocks_eq_ok hscan).2
      refine ⟨⟨name, version, raw⟩, template, hread, ?_, rfl⟩
      exact ⟨by rw [htemplate], by rw [htemplate], by rw [htemplate]; exact hlower,
        Template.isScanned_of_scanBlocks hscan⟩
  · have hfails := engine.register_of_refused hrefused
    rw [register, h] at hfails
    cases hfails

end Engine

def Template.exported (template : Template) (layout : Layout) : String :=
  layout.write (Document.ofTemplate template).toJson

theorem Template.read?_exported (template : Template) (layout : Layout) :
    Json.read? (template.exported layout) = some (Document.ofTemplate template).toJson :=
  layout.read?_write (Document.ofTemplate template).isTextual_toJson

/-- A template that comes from a document is loaded from its export as it is. -/
theorem Engine.addDocument_exported (engine : Engine) {document : Document} {template : Template}
    (h : document.LoadsAs template) (hheight : document.root.height ≤ 63) (layout : Layout) :
    engine.addDocument (template.exported layout) = .ok (engine.holding template) := by
  rw [engine.addDocument_of_read? h.isValid (template.read?_exported layout),
    if_pos (h.height_le hheight), engine.addTemplate_of_isScanned h.scanned]

/-- Every text that is accepted as a document gives a template whose export is accepted by every
engine, is the document without what is not used, and gives the same template and the same export
again. -/
theorem Engine.addDocument_export {engine loaded : Engine} {text : String}
    (h : engine.addDocument text = .ok loaded) :
    ∃ document template, Document.read? text = some document ∧ document.LoadsAs template ∧
      loaded = engine.holding template ∧
      loaded.store.find? document.name = some template ∧
      ∀ layout : Layout,
        Document.read? (template.exported layout) =
          some ⟨document.name, document.version, document.root.erase⟩ ∧
        ∀ other : Engine, ∃ reloaded again,
          other.addDocument (template.exported layout) = .ok reloaded ∧
          reloaded.store.find? document.name = some again ∧
          again.name = template.name ∧ again.version = template.version ∧
          again.root = template.root ∧ again.blocks = template.blocks ∧
          ∀ layout' : Layout, again.exported layout' = template.exported layout' := by
  obtain ⟨document, template, hread, hloads, rfl⟩ := loadsAs_of_addDocument h
  have hheight := Document.height_le_of_read? hread
  have hfind : ∀ engine : Engine,
      (engine.holding template).store.find? document.name = some template :=
    fun engine => hloads.name ▸ engine.find?_holding template
  refine ⟨document, template, hread, hloads, rfl, hfind engine, fun layout => ⟨?_, fun other => ?_⟩⟩
  · rw [← hloads.ofTemplate_eq, Document.read?_of_read? (template.read?_exported layout)]
    exact if_pos (hloads.height_le hheight)
  · exact ⟨other.holding template, template, other.addDocument_exported hloads hheight layout,
      hfind other, rfl, rfl, rfl, rfl, fun _ => rfl⟩

/-- A document without version, whose nodes are written as lists of their fields. The root has a
text that is not used, the block has no list of children, and the comment has null in its place. -/
def shortDocument : String :=
  "\x7b\"name\":\"t\",\"root_node\":" ++
    "[\"source\",\"x\",[[\"block\",\"b\"],[\"comment\",\"c\",null]]]\x7d"

/-- The short document is accepted, and its export is read without the unused text and is loaded as
the same template. -/
theorem Engine.addDocument_export_shortDocument :
    ∃ loaded template, ({} : Engine).addDocument shortDocument = .ok loaded ∧
      loaded.store.find? "t" = some template ∧
      Document.read? (template.exported .dense) = some ⟨"t", "", ⟨.source, "",
        [.leaf .block "b", .leaf .comment "c"]⟩⟩ ∧
      ∃ reloaded, ({} : Engine).addDocument (template.exported .dense) = .ok reloaded ∧
        (reloaded.store.find? "t").map Template.blocks = some [("b", [])] := by
  have hread : Document.read? shortDocument = some ⟨"t", "", ⟨.source, "x",
      [.leaf .block "b", .leaf .comment "c"]⟩⟩ := rfl
  have hloaded : ∃ loaded, ({} : Engine).addDocument shortDocument = .ok loaded := by
    rw [addDocument, hread]
    exact ⟨_, rfl⟩
  obtain ⟨loaded, hloaded⟩ := hloaded
  obtain ⟨document, template, hdocument, hloads, -, hfind, hexport⟩ :=
    Engine.addDocument_export hloaded
  obtain rfl : document = _ := Option.some.inj (hdocument.symm.trans hread)
  obtain ⟨hexported, hagain⟩ := hexport .dense
  obtain ⟨reloaded, again, hreloaded, hfound, -, -, -, hblocks, -⟩ := hagain {}
  have hroot : template.root = .source [.block "b" [], .comment "c"] :=
    (Except.ok.inj hloads.lowered).symm
  have hscan := (Template.scanBlocks_eq_ok hloads.scanned).1
  rw [hroot] at hscan
  refine ⟨loaded, template, hloaded, hfind, hexported, reloaded, hreloaded, ?_⟩
  rw [hfound, Option.map_some, hblocks, ← Except.ok.inj hscan]
  rfl

end TemplateEngine
