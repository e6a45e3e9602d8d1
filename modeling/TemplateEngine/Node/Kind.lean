import TemplateEngine.Json.Basic

/-! # Kinds of nodes

Every node of a stored tree carries the tag of its kind, and every kind belongs to one layer of the
language. -/

namespace TemplateEngine

inductive Layer where
  | structural
  | expression
  | statement
  | argument
  | conditional
  deriving DecidableEq, Repr

def Layer.text : Layer → String
  | .structural => "structural"
  | .expression => "expression"
  | .statement => "statement"
  | .argument => "argument"
  | .conditional => "conditional"

inductive NodeKind where
  | source
  | display
  | statement
  | inclusion
  | block
  | comment
  | content
  | var
  | filter
  | function
  | cond
  | yield
  | loop
  | assign
  | parameter
  | argument
  | condExpression
  | condConsequence
  | condAlternative
  deriving DecidableEq, Repr

namespace NodeKind

def all : List NodeKind :=
  [.source, .display, .statement, .inclusion, .block, .comment, .content, .var, .filter, .function,
   .cond, .yield, .loop, .assign, .parameter, .argument, .condExpression, .condConsequence,
   .condAlternative]

def tag : NodeKind → String
  | .source => "source"
  | .display => "display"
  | .statement => "statement"
  | .inclusion => "include"
  | .block => "block"
  | .comment => "comment"
  | .content => "content"
  | .var => "variable"
  | .filter => "filter"
  | .function => "function"
  | .cond => "cond"
  | .yield => "yield"
  | .loop => "loop"
  | .assign => "assign"
  | .parameter => "parameter"
  | .argument => "argument"
  | .condExpression => "cond_expression"
  | .condConsequence => "cond_consequence"
  | .condAlternative => "cond_alternative"

/-- The layer a kind is declared in. Content is an expression that also stands as structure. -/
def layer : NodeKind → Layer
  | .source | .display | .statement | .inclusion | .block | .comment => .structural
  | .content | .var | .filter | .function => .expression
  | .cond | .yield | .loop | .assign => .statement
  | .parameter | .argument => .argument
  | .condExpression | .condConsequence | .condAlternative => .conditional

/-- The kind with a tag. Parameters and arguments have a second tag each. -/
def ofTag? (tag : String) : Option NodeKind :=
  if tag = "filter_parameter" then some .parameter
  else if tag = "filter_argument" then some .argument
  else all.find? fun kind => kind.tag = tag

/-- A tag is a string, or the only key of an object that has null under it. -/
def ofJson? (limit : Nat) : Json → Option NodeKind
  | .string (some tag) => ofTag? tag
  | .object [(some tag, .null)] => if limit = 0 then none else ofTag? tag
  | _ => none

def toJson (kind : NodeKind) : Json :=
  .string (some kind.tag)

end NodeKind

end TemplateEngine
