import TemplateEngine.Node.Kind

/-! # Typed trees

Expressions have a value, statements steer what is written, and nodes are what is written. A typed
tree has a constructor for every valid shape and none for the others. -/

namespace TemplateEngine

mutual

inductive Expr where
  | content (text : String)
  | var (name : String)
  /-- A field of the base; the accessor of a longer path is itself a selector. -/
  | selector (base accessor : Expr)
  | filter (name : String) (input : Expr)
  | function (name : String) (args : List Argument)

inductive Argument where
  | literal (name : Option String) (text : String)
  | value (name : Option String) (expr : Expr)

end

def Argument.name : Argument → Option String
  | .literal name _ => name
  | .value name _ => name

/-- A selector counts as a variable. -/
def Expr.kind : Expr → NodeKind
  | .content _ => .content
  | .var _ => .var
  | .selector _ _ => .var
  | .filter _ _ => .filter
  | .function _ _ => .function

mutual

inductive Node where
  | source (children : List Node)
  | content (text : String)
  | comment (text : String)
  | display (expr : Expr)
  | statement (statement : Statement)
  /-- The named template in place. -/
  | inclusion (name : String)
  /-- What a yield of the same name writes instead of its default. -/
  | block (name : String) (children : List Node)

inductive Statement where
  | cond (cond : Cond)
  | yield (name : String) (default : List Node)
  | loop (item : String) (iterable : Expr) (body : List Node)
  | assign (name : String) (value : Expr)

inductive Cond where
  | mk (test : Expr) (consequence : List Node) (alternative : CondAlternative)

/-- What happens when a test fails. -/
inductive CondAlternative where
  | nothing
  | elseIf (cond : Cond)
  | otherwise (body : List Node)

end

namespace Node

/-- The children of a source or a block. -/
def children : Node → List Node
  | .source children => children
  | .block _ children => children
  | _ => []

def kind : Node → NodeKind
  | .source _ => .source
  | .content _ => .content
  | .comment _ => .comment
  | .display _ => .display
  | .statement _ => .statement
  | .inclusion _ => .inclusion
  | .block _ _ => .block

end Node

end TemplateEngine
