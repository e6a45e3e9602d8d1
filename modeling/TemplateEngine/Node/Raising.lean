import TemplateEngine.Node.Raw
import TemplateEngine.Node.Tree

/-! # From typed trees to stored trees

Every typed tree can be stored. A text that its kind does not use is empty. -/

namespace TemplateEngine

namespace RawNode

def leaf (kind : NodeKind) (value : String) : RawNode :=
  ⟨kind, value, []⟩

def ofParameter (name : Option String) : List RawNode :=
  (name.map (leaf .parameter)).toList

mutual

def ofExpr : Expr → RawNode
  | .content text => leaf .content text
  | .var name => leaf .var name
  | .selector base accessor => ⟨.var, "", [ofExpr base, ofExpr accessor]⟩
  | .filter name input => ⟨.filter, name, [ofExpr input]⟩
  | .function name args => ⟨.function, name, ofArguments args⟩

def ofArguments : List Argument → List RawNode
  | [] => []
  | arg :: args => ofParameter arg.name ++ ofArgument arg :: ofArguments args

def ofArgument : Argument → RawNode
  | .literal _ text => leaf .argument text
  | .value _ expr => ⟨.argument, "", [ofExpr expr]⟩

end

mutual

def ofNode : Node → RawNode
  | .source children => ⟨.source, "", ofNodes children⟩
  | .content text => leaf .content text
  | .comment text => leaf .comment text
  | .display expr => ⟨.display, "", [ofExpr expr]⟩
  | .statement statement => ⟨.statement, "", [ofStatement statement]⟩
  | .inclusion name => leaf .inclusion name
  | .block name children => ⟨.block, name, ofNodes children⟩

def ofNodes : List Node → List RawNode
  | [] => []
  | node :: nodes => ofNode node :: ofNodes nodes

def ofStatement : Statement → RawNode
  | .cond cond => ofCond cond
  | .yield name default => ⟨.yield, name, ofNodes default⟩
  | .loop item iterable body => ⟨.loop, item, ofExpr iterable :: ofNodes body⟩
  | .assign name value => ⟨.assign, name, [ofExpr value]⟩

def ofCond : Cond → RawNode
  | .mk test consequence alternative =>
    ⟨.cond, "", ⟨.condExpression, "", [ofExpr test]⟩ ::
      ⟨.condConsequence, "", ofNodes consequence⟩ :: ofAlternative alternative⟩

def ofAlternative : CondAlternative → List RawNode
  | .nothing => []
  | .elseIf cond => [ofCond cond]
  | .otherwise body => [⟨.condAlternative, "", ofNodes body⟩]

end

end RawNode

end TemplateEngine
