import TemplateEngine.Node.Raising

/-! # Well-formed stored trees

The stored trees that stand for a typed tree, layer by layer. A text or children that the kind of a
node has no use for may be anything: they are what a tree is stored without. -/

namespace TemplateEngine

namespace RawNode

mutual

inductive IsExpr : RawNode → Prop
  | content (text : String) (children : List RawNode) : IsExpr ⟨.content, text, children⟩
  | var {name : String} (hname : name ≠ "") : IsExpr ⟨.var, name, []⟩
  | selector (text : String) {base accessor : RawNode} (hbase : IsExpr base)
      (haccessor : IsExpr accessor) : IsExpr ⟨.var, text, [base, accessor]⟩
  | filter {name : String} {input : RawNode} (hname : name ≠ "") (hinput : IsExpr input) :
      IsExpr ⟨.filter, name, [input]⟩
  | function {name : String} {names : List String} {args : List RawNode} (hname : name ≠ "")
      (hargs : IsArguments names args) (hnames : names.Nodup) : IsExpr ⟨.function, name, args⟩

/-- Arguments, the named ones of which have the names `names`. -/
inductive IsArguments : (names : List String) → List RawNode → Prop
  | nil : IsArguments [] []
  | positional {names : List String} {arg : RawNode} {args : List RawNode} (harg : IsArgument arg)
      (hargs : IsArguments names args) : IsArguments names (arg :: args)
  | named {name : String} {names : List String} (children : List RawNode) {arg : RawNode}
      {args : List RawNode} (hname : name ≠ "") (harg : IsArgument arg)
      (hargs : IsArguments names args) :
      IsArguments (name :: names) (⟨.parameter, name, children⟩ :: arg :: args)

inductive IsArgument : RawNode → Prop
  | literal (text : String) : IsArgument ⟨.argument, text, []⟩
  | value {expr : RawNode} (hexpr : IsExpr expr) : IsArgument ⟨.argument, "", [expr]⟩

end

mutual

inductive IsNode : RawNode → Prop
  | source (text : String) {children : List RawNode} (hchildren : AreNodes children) :
      IsNode ⟨.source, text, children⟩
  | content (text : String) (children : List RawNode) : IsNode ⟨.content, text, children⟩
  | comment (text : String) (children : List RawNode) : IsNode ⟨.comment, text, children⟩
  | inclusion {name : String} (children : List RawNode) (hname : name ≠ "") :
      IsNode ⟨.inclusion, name, children⟩
  | display (text : String) {expr : RawNode} (hexpr : IsExpr expr) :
      IsNode ⟨.display, text, [expr]⟩
  | statement (text : String) {statement : RawNode} (hstatement : IsStatement statement) :
      IsNode ⟨.statement, text, [statement]⟩
  | block {name : String} {children : List RawNode} (hname : name ≠ "")
      (hchildren : AreNodes children) : IsNode ⟨.block, name, children⟩

inductive AreNodes : List RawNode → Prop
  | nil : AreNodes []
  | cons {node : RawNode} {nodes : List RawNode} (hnode : IsNode node) (hnodes : AreNodes nodes) :
      AreNodes (node :: nodes)

inductive IsStatement : RawNode → Prop
  | cond {cond : RawNode} (hcond : IsCond cond) : IsStatement cond
  | yield {name : String} {default : List RawNode} (hname : name ≠ "")
      (hdefault : AreNodes default) : IsStatement ⟨.yield, name, default⟩
  | loop {item : String} {iterable : RawNode} {body : List RawNode} (hitem : item ≠ "")
      (hiterable : IsExpr iterable) (hbody : AreNodes body) :
      IsStatement ⟨.loop, item, iterable :: body⟩
  | assign {name : String} {value : RawNode} (hname : name ≠ "") (hvalue : IsExpr value) :
      IsStatement ⟨.assign, name, [value]⟩

inductive IsCond : RawNode → Prop
  | mk (text testText bodyText : String) {test : RawNode} {body alternative : List RawNode}
      (htest : IsExpr test) (hbody : AreNodes body) (halternative : IsAlternative alternative) :
      IsCond ⟨.cond, text,
        ⟨.condExpression, testText, [test]⟩ :: ⟨.condConsequence, bodyText, body⟩ :: alternative⟩

/-- What follows the consequence of a conditional. -/
inductive IsAlternative : List RawNode → Prop
  | nothing : IsAlternative []
  | elseIf {cond : RawNode} (hcond : IsCond cond) : IsAlternative [cond]
  | otherwise (text : String) {body : List RawNode} (hbody : AreNodes body) :
      IsAlternative [⟨.condAlternative, text, body⟩]

end

end RawNode

namespace NodeKind

/-- Whether a node with the children has a use for its text. A variable with children has none. -/
def usesText (kind : NodeKind) (children : List RawNode) : Bool :=
  match kind with
  | .source | .display | .statement | .cond | .condExpression | .condConsequence
  | .condAlternative => false
  | .var => children.isEmpty
  | _ => true

def usesChildren : NodeKind → Bool
  | .content | .comment | .inclusion | .parameter => false
  | _ => true

end NodeKind

namespace RawNode

mutual

/-- The tree with only the texts and the children that are used. -/
def erase : RawNode → RawNode
  | ⟨kind, text, children⟩ =>
    ⟨kind, if kind.usesText children then text else "",
      if kind.usesChildren then eraseAll children else []⟩

def eraseAll : List RawNode → List RawNode
  | [] => []
  | child :: children => child.erase :: eraseAll children

end

end RawNode

end TemplateEngine
