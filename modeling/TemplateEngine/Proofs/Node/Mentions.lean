import TemplateEngine.Node.Tree

/-! # What a tree mentions

The names by which a tree reaches for what lies outside it. An accessor mentions nothing: it is
followed and never evaluated. -/

namespace TemplateEngine

inductive Mention where
  | var (name : String)
  /-- A filter or a function. -/
  | callback (name : String)
  | inclusion (name : String)
  deriving DecidableEq, Repr

mutual

def Expr.mentions : Expr → List Mention
  | .content _ => []
  | .var name => [.var name]
  | .selector base _ => base.mentions
  | .filter name input => .callback name :: input.mentions
  | .function name args => .callback name :: Argument.allMentions args

def Argument.allMentions : List Argument → List Mention
  | [] => []
  | arg :: args => arg.mentions ++ Argument.allMentions args

def Argument.mentions : Argument → List Mention
  | .literal _ _ => []
  | .value _ expr => expr.mentions

end

mutual

/-- What stands anywhere in the tree, also in its blocks. -/
def Node.mentions : Node → List Mention
  | .source children => Node.allMentions children
  | .content _ => []
  | .comment _ => []
  | .display expr => expr.mentions
  | .statement statement => statement.mentions
  | .inclusion name => [.inclusion name]
  | .block _ children => Node.allMentions children

def Node.allMentions : List Node → List Mention
  | [] => []
  | node :: nodes => node.mentions ++ Node.allMentions nodes

def Statement.mentions : Statement → List Mention
  | .cond cond => cond.mentions
  | .yield _ default => Node.allMentions default
  | .loop _ iterable body => iterable.mentions ++ Node.allMentions body
  | .assign _ value => value.mentions

def Cond.mentions : Cond → List Mention
  | .mk test consequence alternative =>
    test.mentions ++ (Node.allMentions consequence ++ alternative.mentions)

def CondAlternative.mentions : CondAlternative → List Mention
  | .nothing => []
  | .elseIf cond => cond.mentions
  | .otherwise body => Node.allMentions body

end

theorem Node.allMentions_singleton (node : Node) : Node.allMentions [node] = node.mentions :=
  List.append_nil node.mentions

/-- The field of a path is no variable, and the body of a block counts. -/
example : Node.mentions (.source [.display (.selector (.var "user") (.var "name")),
    .block "main" [.inclusion "row"]]) = [.var "user", .inclusion "row"] := rfl

end TemplateEngine
