import Mathlib.Data.List.Forall2
import TemplateEngine.Proofs.Render.Replacement
import TemplateEngine.Proofs.Render.Sequence
import TemplateEngine.Proofs.Template.Registered

/-! # Else-ifs as conditionals of their own

An else-if says the same as an else with a conditional in it. One can be written for the other
everywhere in the templates of a store, and no render shows it. -/

namespace TemplateEngine

mutual

/-- The second tree is the first with any number of its else-ifs written as an else with a
conditional in it. -/
inductive Node.Unchains : Node → Node → Prop
  | source {children children' : List Node} (hchildren : Node.AllUnchain children children') :
      Node.Unchains (.source children) (.source children')
  | content {text : String} : Node.Unchains (.content text) (.content text)
  | comment {text : String} : Node.Unchains (.comment text) (.comment text)
  | display {expr : Expr} : Node.Unchains (.display expr) (.display expr)
  | statement {statement statement' : Statement}
      (hstatement : Statement.Unchains statement statement') :
      Node.Unchains (.statement statement) (.statement statement')
  | inclusion {name : String} : Node.Unchains (.inclusion name) (.inclusion name)
  | block {name : String} {children children' : List Node}
      (hchildren : Node.AllUnchain children children') :
      Node.Unchains (.block name children) (.block name children')

inductive Node.AllUnchain : List Node → List Node → Prop
  | nil : Node.AllUnchain [] []
  | cons {node node' : Node} {nodes nodes' : List Node} (hnode : Node.Unchains node node')
      (hnodes : Node.AllUnchain nodes nodes') : Node.AllUnchain (node :: nodes) (node' :: nodes')

inductive Statement.Unchains : Statement → Statement → Prop
  | cond {cond cond' : Cond} (hcond : Cond.Unchains cond cond') :
      Statement.Unchains (.cond cond) (.cond cond')
  | yield {name : String} {default default' : List Node}
      (hdefault : Node.AllUnchain default default') :
      Statement.Unchains (.yield name default) (.yield name default')
  | loop {item : String} {iterable : Expr} {body body' : List Node}
      (hbody : Node.AllUnchain body body') :
      Statement.Unchains (.loop item iterable body) (.loop item iterable body')
  | assign {name : String} {value : Expr} :
      Statement.Unchains (.assign name value) (.assign name value)

inductive Cond.Unchains : Cond → Cond → Prop
  | mk {test : Expr} {consequence consequence' : List Node}
      {alternative alternative' : CondAlternative}
      (hconsequence : Node.AllUnchain consequence consequence')
      (halternative : CondAlternative.Unchains alternative alternative') :
      Cond.Unchains (.mk test consequence alternative) (.mk test consequence' alternative')

inductive CondAlternative.Unchains : CondAlternative → CondAlternative → Prop
  | nothing : CondAlternative.Unchains .nothing .nothing
  | elseIf {cond cond' : Cond} (hcond : Cond.Unchains cond cond') :
      CondAlternative.Unchains (.elseIf cond) (.elseIf cond')
  | nested {cond cond' : Cond} (hcond : Cond.Unchains cond cond') :
      CondAlternative.Unchains (.elseIf cond) (.otherwise [.statement (.cond cond')])
  | otherwise {body body' : List Node} (hbody : Node.AllUnchain body body') :
      CondAlternative.Unchains (.otherwise body) (.otherwise body')

end

mutual

theorem Node.Unchains.refl : ∀ node : Node, node.Unchains node
  | .source children => .source (Node.AllUnchain.refl children)
  | .content _ => .content
  | .comment _ => .comment
  | .display _ => .display
  | .statement statement => .statement (Statement.Unchains.refl statement)
  | .inclusion _ => .inclusion
  | .block _ children => .block (Node.AllUnchain.refl children)

theorem Node.AllUnchain.refl : ∀ nodes : List Node, Node.AllUnchain nodes nodes
  | [] => .nil
  | node :: nodes => .cons (Node.Unchains.refl node) (Node.AllUnchain.refl nodes)

theorem Statement.Unchains.refl : ∀ statement : Statement, statement.Unchains statement
  | .cond cond => .cond (Cond.Unchains.refl cond)
  | .yield _ default => .yield (Node.AllUnchain.refl default)
  | .loop _ _ body => .loop (Node.AllUnchain.refl body)
  | .assign _ _ => .assign

theorem Cond.Unchains.refl : ∀ cond : Cond, cond.Unchains cond
  | .mk _ consequence alternative =>
    .mk (Node.AllUnchain.refl consequence) (CondAlternative.Unchains.refl alternative)

theorem CondAlternative.Unchains.refl : ∀ alternative : CondAlternative,
    alternative.Unchains alternative
  | .nothing => .nothing
  | .elseIf cond => .elseIf (Cond.Unchains.refl cond)
  | .otherwise body => .otherwise (Node.AllUnchain.refl body)

end

section

variable {σ : Type} (sink : Sink σ) (expand : List Node → Action σ)

mutual

theorem evaluateNode_unchains {node node' : Node} : node.Unchains node' →
    evaluateNode sink expand node = evaluateNode sink expand node'
  | .source hchildren => evaluateNodes_allUnchain hchildren
  | .content => rfl
  | .comment => rfl
  | .display => rfl
  | .statement hstatement => evaluateStatement_unchains hstatement
  | .inclusion => rfl
  | .block _ => rfl
termination_by structural h => h

theorem evaluateNodes_allUnchain {nodes nodes' : List Node} : Node.AllUnchain nodes nodes' →
    evaluateNodes sink expand nodes = evaluateNodes sink expand nodes'
  | .nil => rfl
  | .cons hnode hnodes => by
    rw [evaluateNodes, evaluateNodes, evaluateNode_unchains hnode,
      evaluateNodes_allUnchain hnodes]
termination_by structural h => h

theorem evaluateStatement_unchains {statement statement' : Statement} :
    statement.Unchains statement' →
      evaluateStatement sink expand statement = evaluateStatement sink expand statement'
  | .cond hcond => evaluateCond_unchains hcond
  | .yield hdefault => by
    rw [evaluateStatement, evaluateStatement, evaluateNodes_allUnchain hdefault]
  | .loop hbody => by
    rw [evaluateStatement, evaluateStatement, evaluateNodes_allUnchain hbody]
  | .assign => rfl
termination_by structural h => h

theorem evaluateCond_unchains {cond cond' : Cond} : cond.Unchains cond' →
    evaluateCond sink expand cond = evaluateCond sink expand cond'
  | .mk hconsequence halternative => by
    rw [evaluateCond, evaluateCond, evaluateNodes_allUnchain hconsequence,
      evaluateAlternative_unchains halternative]
termination_by structural h => h

theorem evaluateAlternative_unchains {alternative alternative' : CondAlternative} :
    alternative.Unchains alternative' →
      evaluateAlternative sink expand alternative = evaluateAlternative sink expand alternative'
  | .nothing => rfl
  | .elseIf hcond => evaluateCond_unchains hcond
  | .nested hcond => by
    rw [evaluateAlternative, evaluateAlternative, evaluateNodes_singleton, evaluateNode,
      evaluateStatement, evaluateCond_unchains hcond]
  | .otherwise hbody => evaluateNodes_allUnchain hbody
termination_by structural h => h

end

end

theorem Node.AllUnchain.sameActions {nodes nodes' : List Node} (h : AllUnchain nodes nodes') :
    SameActions nodes nodes' :=
  fun sink expand => evaluateNodes_allUnchain sink expand h

namespace BlockMap

/-- The same names in the same order, with contents that say the same. -/
def Unchains : BlockMap → BlockMap → Prop :=
  List.Forall₂ fun block block' => block.1 = block'.1 ∧ Node.AllUnchain block.2 block'.2

variable {blocks blocks' : BlockMap}

theorem Unchains.insert (h : blocks.Unchains blocks') (name : String) {nodes nodes' : List Node}
    (hnodes : Node.AllUnchain nodes nodes') :
    BlockMap.Unchains (Dict.insert name nodes blocks) (Dict.insert name nodes' blocks') := by
  induction h with
  | nil => exact .cons ⟨rfl, hnodes⟩ .nil
  | @cons block block' blocks blocks' hblock hblocks ih =>
    obtain ⟨key, content⟩ := block
    obtain ⟨key', content'⟩ := block'
    obtain ⟨rfl, hcontent⟩ := hblock
    unfold Dict.insert
    dsimp only
    split_ifs
    · exact .cons ⟨rfl, hnodes⟩ hblocks
    · exact .cons ⟨rfl, hnodes⟩ (.cons ⟨rfl, hcontent⟩ hblocks)
    · exact .cons ⟨rfl, hcontent⟩ ih

theorem Unchains.replaced (h : blocks.Unchains blocks') : blocks.Replaced blocks' where
  count := h.length_eq
  find? name := by
    induction h with
    | nil => exact .none
    | @cons block block' blocks blocks' hblock _ ih =>
      obtain ⟨key, content⟩ := block
      obtain ⟨key', content'⟩ := block'
      obtain ⟨rfl, hcontent⟩ := hblock
      rw [Dict.find?, Dict.find?]
      split_ifs
      · exact .some hcontent.sameActions
      · exact ih

mutual

/-- The blocks of trees that say the same are recorded with contents that say the same. -/
theorem record_unchains {parent : Option String} {blocks blocks' : BlockMap} {node node' : Node}
    (h : blocks.Unchains blocks') : node.Unchains node' →
      ExceptRel BlockMap.Unchains (record parent blocks node) (record parent blocks' node')
  | .block hchildren => by
    rw [record, record]
    split_ifs
    · exact .error
    · exact (recordAll_unchains h hchildren).bind fun _ _ hinner =>
        .ok (hinner.insert _ hchildren)
  | .source _ => .ok h
  | .content => .ok h
  | .comment => .ok h
  | .display => .ok h
  | .statement _ => .ok h
  | .inclusion => .ok h
termination_by structural h => h

theorem recordAll_unchains {parent : Option String} {blocks blocks' : BlockMap}
    {nodes nodes' : List Node} (h : blocks.Unchains blocks') : Node.AllUnchain nodes nodes' →
      ExceptRel BlockMap.Unchains (recordAll parent blocks nodes) (recordAll parent blocks' nodes')
  | .nil => .ok h
  | .cons hnode hnodes => by
    rw [recordAll, recordAll]
    exact (record_unchains h hnode).bind fun _ _ hbetween => recordAll_unchains hbetween hnodes
termination_by structural h => h

end

end BlockMap

theorem Node.Unchains.children {node node' : Node} (h : node.Unchains node') :
    AllUnchain node.children node'.children := by
  cases h with
  | source hchildren => exact hchildren
  | block hchildren => exact hchildren
  | _ => exact .nil

namespace Template

variable {template template' : Template}

/-- A tree that says the same can be registered as well. -/
theorem exists_scanBlocks_of_unchains (h : template.IsScanned) {root : Node}
    (hroot : template.root.Unchains root) :
    ∃ scanned, ({ template with root } : Template).scanBlocks = .ok scanned ∧
      scanned.name = template.name ∧ scanned.root = root := by
  have hblocks : ExceptRel BlockMap.Unchains (BlockMap.recordAll none [] template.root.children)
      (BlockMap.recordAll none [] root.children) :=
    BlockMap.recordAll_unchains .nil hroot.children
  rw [(scanBlocks_eq_ok h).1] at hblocks
  rw [scanBlocks]
  dsimp only
  generalize BlockMap.recordAll none [] root.children = recorded at hblocks
  cases hblocks with
  | ok _ => exact ⟨_, rfl, rfl, rfl⟩

theorem IsScanned.unchains (h : template.IsScanned) (h' : template'.IsScanned)
    (hroot : template.root.Unchains template'.root) :
    template.blocks.Unchains template'.blocks := by
  have hblocks : ExceptRel BlockMap.Unchains (BlockMap.recordAll none [] template.root.children)
      (BlockMap.recordAll none [] template'.root.children) :=
    BlockMap.recordAll_unchains .nil hroot.children
  rw [(scanBlocks_eq_ok h).1, (scanBlocks_eq_ok h').1] at hblocks
  cases hblocks with
  | ok hblocks => exact hblocks

end Template

namespace Store

variable {store store' : Store}

/-- The trees of the second store are those of the first with any number of their else-ifs written
as an else with a conditional in it. -/
def Unchains (store store' : Store) : Prop :=
  ∀ name, Option.Rel
    (fun template template' : Template => Node.Unchains template.root template'.root)
    (store.find? name) (store'.find? name)

/-- However else-ifs are rewritten, the templates can be registered. -/
theorem Built.exists_unchains (h : store.Built) {rewrite : String → Node → Node}
    (hrewrite : ∀ name, ∀ root : Node, root.Unchains (rewrite name root)) :
    ∃ store' : Store, store'.Built ∧ store'.maxIncludeDepth = store.maxIncludeDepth ∧
      ∀ name, (store'.find? name).map Template.root =
        (store.find? name).map fun template => rewrite name template.root := by
  induction h with
  | empty limit => exact ⟨.withMaxIncludeDepth limit, .empty limit, rfl, fun _ => rfl⟩
  | @add store _ template _ hadd ih =>
    obtain ⟨built, hbuilt, hlimit, hroots⟩ := ih
    obtain ⟨scanned, hscan, rfl⟩ := add_eq_ok hadd
    obtain ⟨scanned', hscan', hname, hroot⟩ := Template.exists_scanBlocks_of_unchains
      (Template.isScanned_of_scanBlocks hscan) (hrewrite scanned.name scanned.root)
    have hadd' : built.add { scanned with root := rewrite scanned.name scanned.root } =
        .ok { built with templates := Dict.insert scanned.name scanned' built.templates } := by
      rw [Store.add, hscan', ← hname]
      rfl
    refine ⟨_, .add hbuilt hadd', hlimit, fun name => ?_⟩
    unfold find?
    by_cases hsame : name = scanned.name
    · subst hsame
      rw [Dict.find?_insert_self, Dict.find?_insert_self]
      exact congrArg some hroot
    · rw [Dict.find?_insert_of_ne hsame, Dict.find?_insert_of_ne hsame]
      exact hroots name

/-- Registered templates that say the same are rendered alike. -/
theorem render_eq_of_unchains (hbuilt : store.Built) (hbuilt' : store'.Built)
    (hlimit : store.maxIncludeDepth = store'.maxIncludeDepth) (htrees : store.Unchains store')
    (registry : Registry) {σ : Type} (sink : Sink σ) (name : String) (data : Dict Value) (out : σ) :
    store.render registry sink name data out = store'.render registry sink name data out := by
  have hreplaced : store.Replaced store' := by
    refine ⟨hlimit, fun name => ?_⟩
    have htree := htrees name
    generalize store.find? name = found at htree ⊢
    generalize store'.find? name = found' at htree ⊢
    cases htree with
    | none => exact .none
    | some hroot => exact .some (Node.AllUnchain.cons hroot .nil).sameActions
  refine render_replaced sink hreplaced (fun template template' hfind hfind' => ?_) registry data
    out
  have htree := htrees name
  rw [hfind, hfind'] at htree
  cases htree with
  | some hroot =>
    exact ((hbuilt.of_find? hfind).2.unchains (hbuilt'.of_find? hfind').2 hroot).replaced

end Store

end TemplateEngine
