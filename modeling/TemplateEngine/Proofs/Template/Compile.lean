import TemplateEngine.Proofs.Dict
import TemplateEngine.Proofs.Markup.Valid
import TemplateEngine.Proofs.Node.Stored
import TemplateEngine.Engine

/-! # Compiled templates

Markup that is compiled and then loaded as a document is the same template as markup that is loaded
at once, up to the depth at which documents are no longer read. -/

namespace TemplateEngine

/-- Markup has no blocks to record. -/
theorem BlockMap.recordAll_of_isPlain {parent : Option String} {blocks : BlockMap}
    {nodes : List Node} (h : ∀ node ∈ nodes, Markup.IsPlain node) :
    BlockMap.recordAll parent blocks nodes = .ok blocks := by
  induction nodes with
  | nil => rfl
  | cons node nodes ih =>
    obtain ⟨hnode, hnodes⟩ := List.forall_mem_cons.mp h
    have hrecord : BlockMap.record parent blocks node = .ok blocks := by
      cases hnode <;> rfl
    rw [BlockMap.recordAll, hrecord, ok_bind]
    exact ih hnodes

theorem Template.scanBlocks_ofMarkup {nodes : List Node} (name : String)
    (h : ∀ node ∈ nodes, Markup.IsPlain node) :
    (Template.ofMarkup name (.source nodes)).scanBlocks = .ok (.ofMarkup name (.source nodes)) := by
  rw [Template.scanBlocks, Template.ofMarkup, Node.children, BlockMap.recordAll_of_isPlain h]
  rfl

/-- The engine with a template in place of the one that had its name. -/
def Engine.holding (engine : Engine) (template : Template) : Engine :=
  { engine with store := { engine.store with
      templates := Dict.insert template.name template engine.store.templates } }

theorem Engine.find?_holding (engine : Engine) (template : Template) :
    (engine.holding template).store.find? template.name = some template :=
  Dict.find?_insert_self template.name template engine.store.templates

theorem Engine.addTemplate_ofMarkup (engine : Engine) {nodes : List Node} (name : String)
    (h : ∀ node ∈ nodes, Markup.IsPlain node) :
    engine.addTemplate (.ofMarkup name (.source nodes)) =
      .ok (engine.holding (.ofMarkup name (.source nodes))) := by
  rw [Engine.addTemplate, Store.add, Template.scanBlocks_ofMarkup name h]
  rfl

theorem Document.toTemplate_ofTemplate {template : Template} (h : template.root.IsValid) :
    (Document.ofTemplate template).toTemplate = .ok { template with blocks := [] } := by
  rw [Document.ofTemplate, Document.toTemplate, RawNode.lowerNode_ofNode template.root h]
  rfl

/-- The document of a template is loaded as that template, unless it is too deep to be read. -/
theorem Engine.addDocument_of_read? (engine : Engine) {template : Template} {text : String}
    (hvalid : template.root.IsValid)
    (htext : Json.read? text = some (Document.ofTemplate template).toJson) :
    engine.addDocument text =
      if (RawNode.ofNode template.root).height ≤ 63 then engine.addTemplate template
      else .error .document := by
  have hread : Document.read? text =
      if (RawNode.ofNode template.root).height ≤ 63 then some (.ofTemplate template) else none :=
    Document.read?_of_read? htext
  rw [Engine.addDocument, hread]
  by_cases hheight : (RawNode.ofNode template.root).height ≤ 63
  · rw [if_pos hheight, if_pos hheight]
    dsimp only
    rw [Document.toTemplate_ofTemplate hvalid]
    rfl
  · rw [if_neg hheight, if_neg hheight]

theorem Engine.addDocument_ofTemplate (engine : Engine) {template : Template}
    (h : template.root.IsValid) :
    engine.addDocument ((Document.ofTemplate template).toJson.toPretty ++ "\n") =
      if (RawNode.ofNode template.root).height ≤ 63 then engine.addTemplate template
      else .error .document :=
  engine.addDocument_of_read? h
    (Json.read?_toPretty (Document.ofTemplate template).isTextual_toJson)

section

variable {source : String} {tree : Node}

theorem compile_of_parse (name : String) (h : Markup.parse source = .ok tree) :
    compile name source = .ok (.ofTemplate (.ofMarkup name tree)) := by
  rw [compile, h, ok_bind]
  rfl

theorem Engine.addSource_of_parse (engine : Engine) (name : String)
    (h : Markup.parse source = .ok tree) :
    engine.addSource name source = .ok (engine.holding (.ofMarkup name tree)) := by
  obtain ⟨nodes, rfl, hplain⟩ := Markup.exists_isPlain_of_parse h
  rw [Engine.addSource, h]
  exact engine.addTemplate_ofMarkup name hplain

theorem Engine.addDocument_of_parse (engine : Engine) (name : String)
    (h : Markup.parse source = .ok tree) :
    engine.addDocument ((Document.ofTemplate (.ofMarkup name tree)).toJson.toPretty ++ "\n") =
      if (RawNode.ofNode tree).height ≤ 63 then .ok (engine.holding (.ofMarkup name tree))
      else .error .document := by
  obtain ⟨nodes, rfl, hplain⟩ := Markup.exists_isPlain_of_parse h
  have hvalid : (Template.ofMarkup name (.source nodes)).root.IsValid :=
    Markup.allValid_of_isPlain hplain
  rw [engine.addDocument_ofTemplate hvalid, engine.addTemplate_ofMarkup name hplain]
  rfl

end

/-- A variable that is piped through one filter `count` times. -/
def pipedSource (count : Nat) : List Char :=
  ['\x7b', '\x7b', ' ', 'a'] ++ (List.replicate count ['|', 'f']).flatten ++
    [' ', '\x7d', '\x7d']

namespace Markup

theorem pipesText_replicate (count : Nat) :
    PipesText (List.replicate count ['|', 'f']).flatten (List.replicate count "f") := by
  induction count with
  | zero => exact .nil
  | succ count ih =>
    have hname : IsIdent ['f'] := ⟨'f', [], rfl, by decide +kernel, by simp⟩
    exact .cons Blanks.nil Blanks.nil hname ih

/-- No limit bounds how many filters the parser accepts. -/
theorem parse_pipedSource (count : Nat) :
    parse (String.ofList (pipedSource count)) =
      .ok (.source [.display ((Expr.var "a").piped (List.replicate count "f"))]) := by
  have hblank : Blanks [' '] := by
    intro c hc
    rw [List.mem_singleton.mp hc]
    decide +kernel
  have hname : IsIdent ['a'] := ⟨'a', [], rfl, by decide +kernel, by simp⟩
  have hchain := ChainText.piped (.name hname .nothing) (pipesText_replicate count)
  have htext : pipedSource count = '\x7b' :: '\x7b' :: ([' '] ++ (['a'] ++ [] ++
      (List.replicate count ['|', 'f']).flatten ++ ([' '] ++ ['\x7d', '\x7d']))) := by
    rw [pipedSource]
    simp
  rw [htext]
  refine parse_display hblank hchain hblank ?_
  rw [Expr.nesting_piped]
  exact Nat.zero_le _

end Markup

theorem RawNode.height_ofExpr_piped (expr : Expr) (names : List String) :
    (RawNode.ofExpr (expr.piped names)).height = (RawNode.ofExpr expr).height + names.length := by
  induction names generalizing expr with
  | nil => rfl
  | cons name names ih =>
    have hfilter : (RawNode.ofExpr (.filter name expr)).height =
        (RawNode.ofExpr expr).height + 1 := by
      simp only [RawNode.ofExpr, RawNode.height, RawNode.heights, Nat.max_zero]
    rw [Expr.piped, List.foldl_cons]
    exact (ih (.filter name expr)).trans (by rw [hfilter, List.length_cons]; omega)

theorem height_pipedSource (count : Nat) :
    (RawNode.ofNode (.source [.display ((Expr.var "a").piped
      (List.replicate count "f"))])).height = count + 3 := by
  have hvar : (RawNode.ofExpr (.var "a")).height = 1 := rfl
  have hpiped := RawNode.height_ofExpr_piped (.var "a") (List.replicate count "f")
  rw [hvar, List.length_replicate] at hpiped
  simp only [RawNode.ofNode, RawNode.ofNodes, RawNode.height, RawNode.heights, hpiped,
    Nat.max_zero]
  omega

/-- Markup that is accepted can be compiled, and the document is loaded as the template that the
markup is loaded as, exactly if its tree has at most 63 nodes on a path. A deeper one is not
read. -/
theorem Engine.addDocument_compile (engine : Engine) (name : String) {source : String}
    {tree : Node} (h : Markup.parse source = .ok tree) :
    ∃ document loaded, compile name source = .ok document ∧
      engine.addSource name source = .ok loaded ∧
      loaded.store.find? name = some { name, version := "1", root := tree, blocks := [] } ∧
      engine.addDocument (document.toJson.toPretty ++ "\n") =
        if (RawNode.ofNode tree).height ≤ 63 then .ok loaded else .error .document :=
  ⟨_, _, compile_of_parse name h, engine.addSource_of_parse name h, engine.find?_holding _,
    engine.addDocument_of_parse name h⟩

/-- A greeting is loaded from its document as from its markup. -/
theorem Engine.addDocument_compile_greeting :
    ∃ document loaded, compile "hi" "Hello {{ name | upper }}" = .ok document ∧
      ({} : Engine).addSource "hi" "Hello {{ name | upper }}" = .ok loaded ∧
      ({} : Engine).addDocument (document.toJson.toPretty ++ "\n") = .ok loaded := by
  have hparse : Markup.parse "Hello {{ name | upper }}" =
      .ok (.source [.content "Hello ", .display (.filter "upper" (.var "name"))]) := rfl
  obtain ⟨document, loaded, hcompile, hsource, -, hdocument⟩ :=
    Engine.addDocument_compile {} "hi" hparse
  exact ⟨document, loaded, hcompile, hsource, hdocument.trans (if_pos (by decide))⟩

/-- The parser and the engine accept a chain of 61 filters, whose document is not read. -/
theorem Engine.addDocument_compile_filters :
    ∃ document loaded, compile "t" (String.ofList (pipedSource 61)) = .ok document ∧
      ({} : Engine).addSource "t" (String.ofList (pipedSource 61)) = .ok loaded ∧
      ({} : Engine).addDocument (document.toJson.toPretty ++ "\n") = .error .document := by
  have hparse := Markup.parse_pipedSource 61
  have hheight := height_pipedSource 61
  exact ⟨_, _, compile_of_parse "t" hparse, Engine.addSource_of_parse {} "t" hparse,
    (Engine.addDocument_of_parse {} "t" hparse).trans (if_neg (by omega))⟩

end TemplateEngine
