import TemplateEngine.Proofs.Dict
import TemplateEngine.Proofs.Except
import TemplateEngine.Proofs.Node.Mentions
import TemplateEngine.Render.Store

/-! # Registered templates

Templates come into a store by registration alone. Each is found under its own name, and its blocks
are those of its tree, so that they mention nothing that the tree does not. -/

namespace TemplateEngine

/-- The contents of all blocks mention only what is in the list. -/
def BlockMap.Mentioned (mentions : List Mention) (blocks : BlockMap) : Prop :=
  ∀ name content, Dict.find? blocks name = some content → Node.allMentions content ⊆ mentions

theorem BlockMap.Mentioned.insert {mentions : List Mention} {blocks : BlockMap}
    (h : blocks.Mentioned mentions) (name : String) {content : List Node}
    (hcontent : Node.allMentions content ⊆ mentions) :
    BlockMap.Mentioned mentions (Dict.insert name content blocks) := by
  intro other content' hfind
  by_cases hname : other = name
  · subst hname
    rw [Dict.find?_insert_self] at hfind
    cases hfind
    exact hcontent
  · rw [Dict.find?_insert_of_ne hname] at hfind
    exact h other content' hfind

mutual

theorem BlockMap.mentioned_record {mentions : List Mention} {parent : Option String}
    {blocks blocks' : BlockMap} (h : blocks.Mentioned mentions) : ∀ {node : Node},
      node.mentions ⊆ mentions → record parent blocks node = .ok blocks' →
        blocks'.Mentioned mentions
  | .block name children, hnode, hrecord => by
    rw [record] at hrecord
    split at hrecord
    · cases hrecord
    · obtain ⟨inner, hinner, hrecord⟩ := exists_of_bind_eq_ok hrecord
      cases hrecord
      exact (mentioned_recordAll h hnode hinner).insert name hnode
  | .source _, _, hrecord => Except.ok.inj hrecord ▸ h
  | .content _, _, hrecord => Except.ok.inj hrecord ▸ h
  | .comment _, _, hrecord => Except.ok.inj hrecord ▸ h
  | .display _, _, hrecord => Except.ok.inj hrecord ▸ h
  | .statement _, _, hrecord => Except.ok.inj hrecord ▸ h
  | .inclusion _, _, hrecord => Except.ok.inj hrecord ▸ h

theorem BlockMap.mentioned_recordAll {mentions : List Mention} {parent : Option String}
    {blocks blocks' : BlockMap} (h : blocks.Mentioned mentions) : ∀ {nodes : List Node},
      Node.allMentions nodes ⊆ mentions → recordAll parent blocks nodes = .ok blocks' →
        blocks'.Mentioned mentions
  | [], _, hrecord => Except.ok.inj hrecord ▸ h
  | _ :: _, hnodes, hrecord => by
    rw [recordAll] at hrecord
    obtain ⟨between, hnode, hrecord⟩ := exists_of_bind_eq_ok hrecord
    have hbetween := mentioned_record h (fun _ hmem => hnodes (List.mem_append_left _ hmem)) hnode
    exact mentioned_recordAll hbetween (fun _ hmem => hnodes (List.mem_append_right _ hmem))
      hrecord

end

theorem Node.allMentions_children_subset (node : Node) :
    Node.allMentions node.children ⊆ node.mentions := by
  cases node <;> simp [children, mentions, allMentions]

/-- The blocks are those of the tree. -/
def Template.IsScanned (template : Template) : Prop :=
  template.scanBlocks = .ok template

namespace Template

variable {template scanned : Template}

theorem scanBlocks_eq_ok (h : template.scanBlocks = .ok scanned) :
    BlockMap.recordAll none [] template.root.children = .ok scanned.blocks ∧
      scanned = { template with blocks := scanned.blocks } := by
  rw [scanBlocks] at h
  obtain ⟨blocks, hblocks, hscanned⟩ := exists_of_bind_eq_ok h
  obtain rfl := Except.ok.inj hscanned
  exact ⟨hblocks, rfl⟩

theorem isScanned_of_scanBlocks (h : template.scanBlocks = .ok scanned) : scanned.IsScanned := by
  obtain ⟨hblocks, heq⟩ := scanBlocks_eq_ok h
  rw [heq, IsScanned, scanBlocks, hblocks]
  rfl

theorem IsScanned.mentioned (h : template.IsScanned) :
    template.blocks.Mentioned template.root.mentions := by
  have hempty : BlockMap.Mentioned template.root.mentions [] := nofun
  exact BlockMap.mentioned_recordAll hempty template.root.allMentions_children_subset
    (scanBlocks_eq_ok h).1

end Template

/-- The stores that come about by registration. -/
inductive Store.Built : Store → Prop
  | empty (limit : Nat) : Store.Built (.withMaxIncludeDepth limit)
  | add {store store' : Store} {template : Template} (h : store.Built)
      (hadd : store.add template = .ok store') : Store.Built store'

namespace Store

variable {store store' : Store} {name : String} {template : Template}

theorem add_eq_ok (h : store.add template = .ok store') :
    ∃ scanned, template.scanBlocks = .ok scanned ∧
      store' = { store with templates := Dict.insert scanned.name scanned store.templates } := by
  obtain ⟨scanned, hscan, hstore⟩ := exists_of_bind_eq_ok h
  exact ⟨scanned, hscan, (Except.ok.inj hstore).symm⟩

theorem Built.of_find? (h : store.Built) (hfind : store.find? name = some template) :
    template.name = name ∧ template.IsScanned := by
  induction h with
  | empty limit => cases hfind
  | @add store _ added _ hadd ih =>
    obtain ⟨scanned, hscan, rfl⟩ := add_eq_ok hadd
    unfold find? at hfind
    by_cases hname : name = scanned.name
    · subst hname
      rw [Dict.find?_insert_self] at hfind
      cases hfind
      exact ⟨rfl, Template.isScanned_of_scanBlocks hscan⟩
    · rw [Dict.find?_insert_of_ne hname] at hfind
      exact ih hfind

end Store

end TemplateEngine
