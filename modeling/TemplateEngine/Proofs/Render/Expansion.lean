import TemplateEngine.Proofs.Render.Static

/-! # Expansion

A template can be expanded before it is rendered: includes are replaced by the trees they name,
yields by overrides or defaults, and blocks are dropped. -/

namespace TemplateEngine

section

variable (store : Store) (blocks : BlockMap)

mutual

/-- What a node is replaced by, below an include path from the entry, innermost first, and inside
overrides that are being expanded. An include names a template that is not on the path, the path
does not get longer than the limit, and no override stands inside its own expansion. -/
inductive ExpandsNode : (path yields : List String) → Node → List Node → Prop
  | source {path yields : List String} {children expanded : List Node}
      (hchildren : ExpandsNodes path yields children expanded) :
      ExpandsNode path yields (.source children) [.source expanded]
  | content {path yields : List String} {text : String} :
      ExpandsNode path yields (.content text) [.content text]
  | comment {path yields : List String} {text : String} :
      ExpandsNode path yields (.comment text) [.comment text]
  | display {path yields : List String} {expr : Expr} :
      ExpandsNode path yields (.display expr) [.display expr]
  | statement {path yields : List String} {statement : Statement} {expanded : Node}
      (hstatement : ExpandsStatement path yields statement expanded) :
      ExpandsNode path yields (.statement statement) [expanded]
  | inclusion {path yields : List String} {name : String} {template : Template}
      {expanded : List Node} (hfind : store.find? name = some template) (hpath : name ∉ path)
      (hdepth : path.length < store.maxIncludeDepth)
      (hroot : ExpandsNode (name :: path) yields template.root expanded) :
      ExpandsNode path yields (.inclusion name) expanded
  | block {path yields : List String} {name : String} {children : List Node} :
      ExpandsNode path yields (.block name children) []

inductive ExpandsNodes : (path yields : List String) → List Node → List Node → Prop
  | nil {path yields : List String} : ExpandsNodes path yields [] []
  | cons {path yields : List String} {node : Node} {nodes expanded others : List Node}
      (hnode : ExpandsNode path yields node expanded)
      (hnodes : ExpandsNodes path yields nodes others) :
      ExpandsNodes path yields (node :: nodes) (expanded ++ others)

/-- A yield is replaced by a source of its override, or of its default if it has none. -/
inductive ExpandsStatement : (path yields : List String) → Statement → Node → Prop
  | cond {path yields : List String} {cond expanded : Cond}
      (hcond : ExpandsCond path yields cond expanded) :
      ExpandsStatement path yields (.cond cond) (.statement (.cond expanded))
  | override {path yields : List String} {name : String} {nodes default expanded : List Node}
      (hblock : Dict.find? blocks name = some nodes) (hyields : name ∉ yields)
      (hnodes : ExpandsNodes path (name :: yields) nodes expanded) :
      ExpandsStatement path yields (.yield name default) (.source expanded)
  | default {path yields : List String} {name : String} {default expanded : List Node}
      (hblock : Dict.find? blocks name = none)
      (hdefault : ExpandsNodes path yields default expanded) :
      ExpandsStatement path yields (.yield name default) (.source expanded)
  | loop {path yields : List String} {item : String} {iterable : Expr} {body expanded : List Node}
      (hbody : ExpandsNodes path yields body expanded) :
      ExpandsStatement path yields (.loop item iterable body)
        (.statement (.loop item iterable expanded))
  | assign {path yields : List String} {name : String} {value : Expr} :
      ExpandsStatement path yields (.assign name value) (.statement (.assign name value))

inductive ExpandsCond : (path yields : List String) → Cond → Cond → Prop
  | mk {path yields : List String} {test : Expr} {consequence expanded : List Node}
      {alternative alternative' : CondAlternative}
      (hconsequence : ExpandsNodes path yields consequence expanded)
      (halternative : ExpandsAlternative path yields alternative alternative') :
      ExpandsCond path yields (.mk test consequence alternative) (.mk test expanded alternative')

inductive ExpandsAlternative : (path yields : List String) →
    CondAlternative → CondAlternative → Prop
  | nothing {path yields : List String} : ExpandsAlternative path yields .nothing .nothing
  | elseIf {path yields : List String} {cond expanded : Cond}
      (hcond : ExpandsCond path yields cond expanded) :
      ExpandsAlternative path yields (.elseIf cond) (.elseIf expanded)
  | otherwise {path yields : List String} {body expanded : List Node}
      (hbody : ExpandsNodes path yields body expanded) :
      ExpandsAlternative path yields (.otherwise body) (.otherwise expanded)

end

end

section

variable {store : Store} {blocks : BlockMap}

mutual

theorem ExpandsNode.static {path yields : List String} {node : Node} {expanded : List Node} :
    ExpandsNode store blocks path yields node expanded → Node.AllInScope .static expanded
  | .source hchildren => ⟨hchildren.static, trivial⟩
  | .content => ⟨trivial, trivial⟩
  | .comment => ⟨trivial, trivial⟩
  | .display => ⟨trivial, trivial⟩
  | .statement hstatement => ⟨hstatement.static, trivial⟩
  | .inclusion _ _ _ hroot => hroot.static
  | .block => trivial

theorem ExpandsNodes.static {path yields : List String} {nodes expanded : List Node} :
    ExpandsNodes store blocks path yields nodes expanded → Node.AllInScope .static expanded
  | .nil => trivial
  | .cons hnode hnodes => hnode.static.append hnodes.static

theorem ExpandsStatement.static {path yields : List String} {statement : Statement}
    {expanded : Node} :
    ExpandsStatement store blocks path yields statement expanded → expanded.InScope .static
  | .cond hcond => hcond.static
  | .override _ _ hnodes => hnodes.static
  | .default _ hdefault => hdefault.static
  | .loop hbody => ⟨trivial, hbody.static⟩
  | .assign => trivial

theorem ExpandsCond.static {path yields : List String} {cond expanded : Cond} :
    ExpandsCond store blocks path yields cond expanded → expanded.InScope .static
  | .mk hconsequence halternative => ⟨trivial, hconsequence.static, halternative.static⟩

theorem ExpandsAlternative.static {path yields : List String}
    {alternative expanded : CondAlternative} :
    ExpandsAlternative store blocks path yields alternative expanded → expanded.InScope .static
  | .nothing => trivial
  | .elseIf hcond => hcond.static
  | .otherwise hbody => hbody.static

end

end

section

variable {store : Store} {blocks : BlockMap}

mutual

theorem ExpandsNode.unique {path yields : List String} {node : Node} {expanded other : List Node} :
    ExpandsNode store blocks path yields node expanded →
      ExpandsNode store blocks path yields node other → expanded = other
  | .source hchildren, .source hchildren' => by rw [hchildren.unique hchildren']
  | .content, .content => rfl
  | .comment, .comment => rfl
  | .display, .display => rfl
  | .statement hstatement, .statement hstatement' => by rw [hstatement.unique hstatement']
  | .inclusion hfind _ _ hroot, .inclusion hfind' _ _ hroot' => by
    obtain rfl := Option.some.inj (hfind.symm.trans hfind')
    exact hroot.unique hroot'
  | .block, .block => rfl
termination_by structural h => h

theorem ExpandsNodes.unique {path yields : List String} {nodes expanded other : List Node} :
    ExpandsNodes store blocks path yields nodes expanded →
      ExpandsNodes store blocks path yields nodes other → expanded = other
  | .nil, .nil => rfl
  | .cons hnode hnodes, .cons hnode' hnodes' => by
    rw [hnode.unique hnode', hnodes.unique hnodes']
termination_by structural h => h

theorem ExpandsStatement.unique {path yields : List String} {statement : Statement}
    {expanded other : Node} :
    ExpandsStatement store blocks path yields statement expanded →
      ExpandsStatement store blocks path yields statement other → expanded = other
  | .cond hcond, .cond hcond' => by rw [hcond.unique hcond']
  | .override hblock _ hnodes, .override hblock' _ hnodes' => by
    obtain rfl := Option.some.inj (hblock.symm.trans hblock')
    rw [hnodes.unique hnodes']
  | .override hblock _ _, .default hblock' _ => nomatch hblock.symm.trans hblock'
  | .default hblock _, .override hblock' _ _ => nomatch hblock.symm.trans hblock'
  | .default _ hdefault, .default _ hdefault' => by rw [hdefault.unique hdefault']
  | .loop hbody, .loop hbody' => by rw [hbody.unique hbody']
  | .assign, .assign => rfl
termination_by structural h => h

theorem ExpandsCond.unique {path yields : List String} {cond expanded other : Cond} :
    ExpandsCond store blocks path yields cond expanded →
      ExpandsCond store blocks path yields cond other → expanded = other
  | .mk hconsequence halternative, .mk hconsequence' halternative' => by
    rw [hconsequence.unique hconsequence', halternative.unique halternative']
termination_by structural h => h

theorem ExpandsAlternative.unique {path yields : List String}
    {alternative expanded other : CondAlternative} :
    ExpandsAlternative store blocks path yields alternative expanded →
      ExpandsAlternative store blocks path yields alternative other → expanded = other
  | .nothing, .nothing => rfl
  | .elseIf hcond, .elseIf hcond' => by rw [hcond.unique hcond']
  | .otherwise hbody, .otherwise hbody' => by rw [hbody.unique hbody']
termination_by structural h => h

end

end

end TemplateEngine
