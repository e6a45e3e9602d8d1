import TemplateEngine.Proofs.Render.Replacement
import TemplateEngine.Proofs.Render.Sequence
import TemplateEngine.Proofs.Template.Registered

/-! # Nodes that do nothing

A comment writes nothing, and a block does something only where registration finds it in the tree of
the entry. All others can be left out of all templates, and no render of the entry shows it. -/

namespace TemplateEngine

/-- The node is a comment, or a block where blocks are not looked for. -/
def Node.isInert (scanned : Bool) : Node → Bool
  | .comment _ => true
  | .block _ _ => !scanned
  | _ => false

mutual

/-- The node without what does nothing among the nodes in it. Blocks are looked for directly inside
a block. -/
def Node.strip : Node → Node
  | .source children => .source (Node.stripAll false children)
  | .content text => .content text
  | .comment text => .comment text
  | .display expr => .display expr
  | .statement statement => .statement statement.strip
  | .inclusion name => .inclusion name
  | .block name children => .block name (Node.stripAll true children)

/-- The nodes without those that do nothing, where blocks are looked for among them or not. -/
def Node.stripAll (scanned : Bool) : List Node → List Node
  | [] => []
  | node :: nodes =>
    if node.isInert scanned then Node.stripAll scanned nodes
    else node.strip :: Node.stripAll scanned nodes

def Statement.strip : Statement → Statement
  | .cond cond => .cond cond.strip
  | .yield name default => .yield name (Node.stripAll false default)
  | .loop item iterable body => .loop item iterable (Node.stripAll false body)
  | .assign name value => .assign name value

def Cond.strip : Cond → Cond
  | .mk test consequence alternative =>
    .mk test (Node.stripAll false consequence) alternative.strip

def CondAlternative.strip : CondAlternative → CondAlternative
  | .nothing => .nothing
  | .elseIf cond => .elseIf cond.strip
  | .otherwise body => .otherwise (Node.stripAll false body)

end

/-- The tree of a template without what does nothing. Only in the entry its children are looked
through for blocks. -/
def Node.stripRoot (entry : Bool) : Node → Node
  | .source children => .source (Node.stripAll entry children)
  | .block name children => .block name (Node.stripAll entry children)
  | node => node.strip

theorem Node.isInert_strip (scanned : Bool) (node : Node) :
    node.strip.isInert scanned = node.isInert scanned := by
  cases node <;> rfl

mutual

theorem Node.strip_strip : ∀ node : Node, node.strip.strip = node.strip
  | .source children => by
    rw [Node.strip, Node.strip, Node.stripAll_stripAll false children]
  | .content _ => rfl
  | .comment _ => rfl
  | .display _ => rfl
  | .statement statement => by rw [Node.strip, Node.strip, statement.strip_strip]
  | .inclusion _ => rfl
  | .block name children => by rw [Node.strip, Node.strip, Node.stripAll_stripAll true children]

theorem Node.stripAll_stripAll (scanned : Bool) : ∀ nodes : List Node,
    Node.stripAll scanned (Node.stripAll scanned nodes) = Node.stripAll scanned nodes
  | [] => rfl
  | node :: nodes => by
    rw [Node.stripAll]
    split_ifs with hinert
    · exact Node.stripAll_stripAll scanned nodes
    · rw [Node.stripAll, node.isInert_strip, if_neg hinert, node.strip_strip,
        Node.stripAll_stripAll scanned nodes]

theorem Statement.strip_strip : ∀ statement : Statement, statement.strip.strip = statement.strip
  | .cond cond => by rw [Statement.strip, Statement.strip, cond.strip_strip]
  | .yield name default => by
    rw [Statement.strip, Statement.strip, Node.stripAll_stripAll false default]
  | .loop item iterable body => by
    rw [Statement.strip, Statement.strip, Node.stripAll_stripAll false body]
  | .assign _ _ => rfl

theorem Cond.strip_strip : ∀ cond : Cond, cond.strip.strip = cond.strip
  | .mk test consequence alternative => by
    rw [Cond.strip, Cond.strip, Node.stripAll_stripAll false consequence, alternative.strip_strip]

theorem CondAlternative.strip_strip : ∀ alternative : CondAlternative,
    alternative.strip.strip = alternative.strip
  | .nothing => rfl
  | .elseIf cond => by rw [CondAlternative.strip, CondAlternative.strip, cond.strip_strip]
  | .otherwise body => by
    rw [CondAlternative.strip, CondAlternative.strip, Node.stripAll_stripAll false body]

end

theorem Node.stripRoot_stripRoot (entry : Bool) (node : Node) :
    (node.stripRoot entry).stripRoot entry = node.stripRoot entry := by
  cases node with
  | source children => exact congrArg Node.source (Node.stripAll_stripAll entry children)
  | block name children => exact congrArg (Node.block name) (Node.stripAll_stripAll entry children)
  | statement statement => exact congrArg Node.statement statement.strip_strip
  | _ => rfl

section

variable {σ : Type} (sink : Sink σ) (expand : List Node → Action σ)

theorem evaluateNode_of_isInert {scanned : Bool} {node : Node} (h : node.isInert scanned = true) :
    evaluateNode sink expand node = Action.skip := by
  cases node with
  | comment _ => rfl
  | block _ _ => rfl
  | _ => cases h

mutual

theorem evaluateNode_strip : ∀ node : Node,
    evaluateNode sink expand node.strip = evaluateNode sink expand node
  | .source children => evaluateNodes_stripAll false children
  | .content _ => rfl
  | .comment _ => rfl
  | .display _ => rfl
  | .statement statement => evaluateStatement_strip statement
  | .inclusion _ => rfl
  | .block _ _ => rfl

theorem evaluateNodes_stripAll (scanned : Bool) : ∀ nodes : List Node,
    evaluateNodes sink expand (Node.stripAll scanned nodes) = evaluateNodes sink expand nodes
  | [] => rfl
  | node :: nodes => by
    rw [Node.stripAll]
    split_ifs with hinert
    · rw [evaluateNodes, evaluateNode_of_isInert sink expand hinert,
        evaluateNodes_stripAll scanned nodes]
      rfl
    · rw [evaluateNodes, evaluateNodes, evaluateNode_strip node,
        evaluateNodes_stripAll scanned nodes]

theorem evaluateStatement_strip : ∀ statement : Statement,
    evaluateStatement sink expand statement.strip = evaluateStatement sink expand statement
  | .cond cond => evaluateCond_strip cond
  | .yield name default => by
    rw [Statement.strip, evaluateStatement, evaluateStatement,
      evaluateNodes_stripAll false default]
  | .loop item iterable body => by
    rw [Statement.strip, evaluateStatement, evaluateStatement, evaluateNodes_stripAll false body]
  | .assign _ _ => rfl

theorem evaluateCond_strip : ∀ cond : Cond,
    evaluateCond sink expand cond.strip = evaluateCond sink expand cond
  | .mk test consequence alternative => by
    rw [Cond.strip, evaluateCond, evaluateCond, evaluateNodes_stripAll false consequence,
      evaluateAlternative_strip alternative]

theorem evaluateAlternative_strip : ∀ alternative : CondAlternative,
    evaluateAlternative sink expand alternative.strip =
      evaluateAlternative sink expand alternative
  | .nothing => rfl
  | .elseIf cond => evaluateCond_strip cond
  | .otherwise body => evaluateNodes_stripAll false body

end

theorem evaluateNode_stripRoot (entry : Bool) (node : Node) :
    evaluateNode sink expand (node.stripRoot entry) = evaluateNode sink expand node := by
  cases node with
  | source children => exact evaluateNodes_stripAll sink expand entry children
  | block name children => rfl
  | _ => exact evaluateNode_strip sink expand _

end

/-- Nodes that are the same but for what does nothing do the same. -/
theorem Node.sameActions_of_stripAll_eq {scanned : Bool} {nodes nodes' : List Node}
    (h : Node.stripAll scanned nodes = Node.stripAll scanned nodes') :
    Node.SameActions nodes nodes' := by
  intro σ sink expand
  rw [← evaluateNodes_stripAll sink expand scanned nodes, h, evaluateNodes_stripAll]

theorem Node.sameActions_of_stripRoot_eq {entry : Bool} {root root' : Node}
    (h : root.stripRoot entry = root'.stripRoot entry) : Node.SameActions [root] [root'] := by
  intro σ sink expand
  rw [evaluateNodes_singleton, evaluateNodes_singleton, ← evaluateNode_stripRoot sink expand entry,
    h, evaluateNode_stripRoot]

theorem optionRel_of_map_eq {α β : Type} {r : α → α → Prop} {f : α → β}
    (h : ∀ a b, f a = f b → r a b) {found found' : Option α} (heq : found.map f = found'.map f) :
    Option.Rel r found found' := by
  cases found with
  | none =>
    rw [Option.map_eq_none_iff.mp heq.symm]
    exact .none
  | some a =>
    obtain ⟨b, rfl, hb⟩ := Option.map_eq_some_iff.mp heq.symm
    exact .some (h a b hb.symm)

namespace BlockMap

def strip (blocks : BlockMap) : BlockMap :=
  Dict.mapValues (fun _ => Node.stripAll true) blocks

mutual

/-- The same blocks are recorded where everything else that does nothing is left out. -/
theorem record_strip (parent : Option String) (blocks : BlockMap) : ∀ node : Node,
    record parent blocks.strip node.strip = (record parent blocks node).map strip
  | .block name children => by
    rw [Node.strip, record, record]
    split_ifs
    · rfl
    · rw [recordAll_strip (some name) blocks children]
      cases recordAll (some name) blocks children with
      | error error => rfl
      | ok inner =>
        exact congrArg Except.ok
          (Dict.insert_mapValues (fun _ => Node.stripAll true) name children inner)
  | .source _ => rfl
  | .content _ => rfl
  | .comment _ => rfl
  | .display _ => rfl
  | .statement _ => rfl
  | .inclusion _ => rfl

theorem recordAll_strip (parent : Option String) (blocks : BlockMap) : ∀ nodes : List Node,
    recordAll parent blocks.strip (Node.stripAll true nodes) =
      (recordAll parent blocks nodes).map strip
  | [] => rfl
  | node :: nodes => by
    rw [Node.stripAll, recordAll]
    split_ifs with hinert
    · have hnone : record parent blocks node = .ok blocks := by
        cases node with
        | block _ _ => cases hinert
        | _ => rfl
      rw [hnone]
      exact recordAll_strip parent blocks nodes
    · rw [recordAll, record_strip parent blocks node]
      cases record parent blocks node with
      | error error => rfl
      | ok between => exact recordAll_strip parent between nodes

end

theorem recordAll_stripAll_false (parent : Option String) (blocks : BlockMap)
    (nodes : List Node) : recordAll parent blocks (Node.stripAll false nodes) = .ok blocks := by
  induction nodes with
  | nil => rfl
  | cons node nodes ih =>
    rw [Node.stripAll]
    split_ifs with hinert
    · exact ih
    · have hnone : record parent blocks node.strip = .ok blocks := by
        cases node with
        | block _ _ => exact absurd rfl hinert
        | _ => rfl
      rw [recordAll, hnone]
      exact ih

theorem replaced_of_strip_eq {blocks blocks' : BlockMap} (h : blocks.strip = blocks'.strip) :
    blocks.Replaced blocks' where
  count := by
    have hlength := congrArg List.length h
    rwa [strip, strip, Dict.mapValues, Dict.mapValues, List.length_map, List.length_map] at hlength
  find? name := by
    have hfind := congrArg (Dict.find? · name) h
    simp only [strip, Dict.find?_mapValues] at hfind
    exact optionRel_of_map_eq (fun _ _ => Node.sameActions_of_stripAll_eq) hfind

end BlockMap

namespace Template

/-- The template of the tree without what does nothing, with the blocks of that tree. -/
def strip (entry : Bool) (template : Template) : Template :=
  { template with
    root := template.root.stripRoot entry
    blocks := if entry then template.blocks.strip else [] }

variable {template : Template}

theorem recordAll_stripRoot (h : template.IsScanned) (entry : Bool) :
    BlockMap.recordAll none [] (template.root.stripRoot entry).children =
      .ok (template.strip entry).blocks := by
  have hblocks := (scanBlocks_eq_ok h).1
  have hchildren : (template.root.stripRoot entry).children =
      Node.stripAll entry template.root.children := by
    cases template.root <;> rfl
  rw [hchildren]
  cases entry with
  | false => exact BlockMap.recordAll_stripAll_false none [] template.root.children
  | true =>
    have hstrip := BlockMap.recordAll_strip none [] template.root.children
    rw [hblocks] at hstrip
    exact hstrip

theorem IsScanned.strip (h : template.IsScanned) (entry : Bool) :
    (template.strip entry).IsScanned := by
  rw [IsScanned, scanBlocks, Template.strip, recordAll_stripRoot h entry]
  rfl

/-- The tree of the entry decides its blocks but for what does nothing in them. -/
theorem IsScanned.replaced {template' : Template} (h : template.IsScanned)
    (h' : template'.IsScanned)
    (hroot : template.root.stripRoot true = template'.root.stripRoot true) :
    template.blocks.Replaced template'.blocks := by
  have hblocks := recordAll_stripRoot h true
  rw [hroot, recordAll_stripRoot h' true] at hblocks
  exact BlockMap.replaced_of_strip_eq (Except.ok.inj hblocks).symm

end Template

namespace Store

/-- The store with all templates without what does nothing in a render of the entry. -/
def strip (store : Store) (entry : String) : Store :=
  { store with
    templates := Dict.mapValues (fun name template => template.strip (name = entry))
      store.templates }

variable {store store' : Store}

theorem find?_strip (store : Store) (entry name : String) :
    (store.strip entry).find? name =
      (store.find? name).map (Template.strip (name = entry)) :=
  Dict.find?_mapValues (fun name template => Template.strip (name = entry) template)
    store.templates name

theorem Built.strip (h : store.Built) (entry : String) : (store.strip entry).Built := by
  induction h with
  | empty limit => exact .empty limit
  | @add store _ template _ hadd ih =>
    obtain ⟨scanned, hscan, rfl⟩ := add_eq_ok hadd
    have hscanned := (Template.isScanned_of_scanBlocks hscan).strip (scanned.name = entry)
    have hinsert := Dict.insert_mapValues
      (fun name template => Template.strip (name = entry) template) scanned.name scanned
      store.templates
    have hadd : (store.strip entry).add (scanned.strip (scanned.name = entry)) =
        .ok (Store.strip { store with
          templates := Dict.insert scanned.name scanned store.templates } entry) := by
      rw [Store.add, hscanned]
      exact congrArg (fun templates => Except.ok { store with templates }) hinsert
    exact .add ih hadd

/-- The trees of two stores are the same but for what does nothing in a render of the entry. -/
def SameTrees (entry : String) (store store' : Store) : Prop :=
  ∀ name, (store.find? name).map (·.root.stripRoot (name = entry)) =
    (store'.find? name).map (·.root.stripRoot (name = entry))

theorem sameTrees_strip (store : Store) (entry : String) :
    store.SameTrees entry (store.strip entry) := by
  intro name
  rw [find?_strip, Option.map_map]
  cases store.find? name with
  | none => rfl
  | some template =>
    exact congrArg some (template.root.stripRoot_stripRoot (name = entry)).symm

/-- Registered templates whose trees are the same but for what does nothing are rendered alike. -/
theorem render_eq_of_sameTrees {entry : String} (hbuilt : store.Built) (hbuilt' : store'.Built)
    (hlimit : store.maxIncludeDepth = store'.maxIncludeDepth)
    (htrees : store.SameTrees entry store') (registry : Registry) {σ : Type} (sink : Sink σ)
    (data : Dict Value) (out : σ) :
    store.render registry sink entry data out = store'.render registry sink entry data out := by
  have hreplaced : store.Replaced store' := by
    refine ⟨hlimit, fun name => ?_⟩
    have hroots : ∀ template template' : Template,
        template.root.stripRoot (name = entry) = template'.root.stripRoot (name = entry) →
          Node.SameActions [template.root] [template'.root] :=
      fun _ _ => Node.sameActions_of_stripRoot_eq
    exact optionRel_of_map_eq hroots (htrees name)
  refine render_replaced sink hreplaced (fun template template' hfind hfind' => ?_) registry data
    out
  have hroots := htrees entry
  rw [hfind, hfind'] at hroots
  have hroot := Option.some.inj hroots
  rw [decide_eq_true rfl] at hroot
  exact (hbuilt.of_find? hfind).2.replaced (hbuilt'.of_find? hfind').2 hroot

/-- Comments, and blocks that registration does not find in the tree of the entry, do nothing.
Without them the templates can be registered as well, the trees are the same but for them, and the
entry is rendered to the same writes with the same result. So other templates may have any blocks:
registered templates that differ in what does nothing are rendered alike. -/
theorem render_strip (hbuilt : store.Built) (entry : String) :
    (store.strip entry).Built ∧
      (∀ name, ((store.strip entry).find? name).map Template.root =
        (store.find? name).map (·.root.stripRoot (name = entry))) ∧
      (∀ (registry : Registry) {σ : Type} (sink : Sink σ) (data : Dict Value) (out : σ),
        (store.strip entry).render registry sink entry data out =
          store.render registry sink entry data out) ∧
      ∀ store' : Store, store'.Built → store'.maxIncludeDepth = store.maxIncludeDepth →
        store'.SameTrees entry store →
          ∀ (registry : Registry) {σ : Type} (sink : Sink σ) (data : Dict Value) (out : σ),
            store'.render registry sink entry data out =
              store.render registry sink entry data out := by
  have hstrip := hbuilt.strip entry
  refine ⟨hstrip, fun name => ?_, fun registry σ sink data out => ?_,
    fun store' hbuilt' hlimit htrees registry σ sink data out => ?_⟩
  · rw [find?_strip, Option.map_map]
    rfl
  · exact (render_eq_of_sameTrees hbuilt hstrip rfl (store.sameTrees_strip entry) registry sink
      data out).symm
  · exact render_eq_of_sameTrees hbuilt' hbuilt hlimit htrees registry sink data out

def bannerTemplate (title : Option String) : Template :=
  let own := title.toList.map fun text => Node.block "title" [.content text]
  ⟨"banner", "1", .source (own ++ [.statement (.yield "title" [])]),
    (title.map fun text => ("title", [Node.content text])).toList⟩

/-- A cover with a title for its banner. Another title stands where blocks are not looked for. -/
def coverTemplate : Template :=
  ⟨"cover", "1", .source [.block "title" [.comment "short", .content "Tea"], .comment "cover",
      .source [.block "title" [.content "Rye"]], .inclusion "banner"],
    [("title", [.comment "short", .content "Tea"])]⟩

def covers (title : Option String) : Store where
  templates := [("banner", bannerTemplate title), ("cover", coverTemplate)]

theorem covers_built (title : Option String) : (covers title).Built := by
  let banners : Store := { templates := [("banner", bannerTemplate title)] }
  have hbanner : (withMaxIncludeDepth defaultIncludeDepth).add (bannerTemplate title) =
      .ok banners := by
    cases title <;> rfl
  have hcover : banners.add coverTemplate = .ok (covers title) := rfl
  exact .add (.add (.empty defaultIncludeDepth) hbanner) hcover

/-- The cover shows its title without the comments and the other block, and whatever title the
banner has itself. -/
theorem render_strip_covers :
    (covers (some "Rum")).Built ∧
      let stripped := (covers (some "Rum")).strip "cover"
      (stripped.find? "cover").map Template.root =
        some (.source [.block "title" [.content "Tea"], .source [], .inclusion "banner"]) ∧
      (stripped.find? "banner").map Template.root =
        some (.source [.statement (.yield "title" [])]) ∧
      (covers (some "Rum")).render {} Sink.text "cover" [] "" = (.ok (), "Tea") ∧
      stripped.render {} Sink.text "cover" [] "" = (.ok (), "Tea") ∧
      (covers none).render {} Sink.text "cover" [] "" = (.ok (), "Tea") := by
  have hbuilt := covers_built (some "Rum")
  obtain ⟨-, hroots, hstripped, hother⟩ := render_strip hbuilt "cover"
  have htext : (covers (some "Rum")).render {} Sink.text "cover" [] "" = (.ok (), "Tea") := rfl
  have htrees : (covers none).SameTrees "cover" (covers (some "Rum")) := by
    intro name
    by_cases hbanner : name = "banner"
    · subst hbanner
      rfl
    · have hfind : (covers none).find? name = (covers (some "Rum")).find? name := by
        simp only [find?, covers, Dict.find?, if_neg (Ne.symm hbanner)]
      rw [hfind]
  refine ⟨hbuilt, hroots "cover", hroots "banner", htext, ?_, ?_⟩
  · exact (hstripped {} Sink.text [] "").trans htext
  · exact (hother _ (covers_built none) rfl htrees {} Sink.text [] "").trans htext

end Store

end TemplateEngine
