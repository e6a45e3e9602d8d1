import TemplateEngine.Node.Tree

/-! # Paths in expressions

A selector follows a path from its base. The steps of a path name fields, and the last may be a call
instead, which names none. -/

namespace TemplateEngine

/-- Names of fields, of which the last may be a call instead. -/
inductive Expr.IsPath : Expr → Prop
  | field (name : String) : IsPath (.var name)
  | call (name : String) (args : List Argument) : IsPath (.function name args)
  | step (name : String) {path : Expr} (h : IsPath path) : IsPath (.selector (.var name) path)

/-- The last step of a path is a call. -/
def Expr.EndsInCall : Expr → Prop
  | .selector _ path => path.EndsInCall
  | .function _ _ => True
  | _ => False

mutual

/-- All selectors in the expression follow paths. -/
def Expr.Selects : Expr → Prop
  | .content _ => True
  | .var _ => True
  | .selector base path => base.Selects ∧ path.IsPath
  | .filter _ input => input.Selects
  | .function _ args => Argument.AllSelect args

def Argument.AllSelect : List Argument → Prop
  | [] => True
  | arg :: args => arg.Selects ∧ Argument.AllSelect args

def Argument.Selects : Argument → Prop
  | .literal _ _ => True
  | .value _ expr => expr.Selects

end

mutual

/-- Some selector in the expression follows a path whose last step is a call. -/
def Expr.HasCallStep : Expr → Prop
  | .content _ => False
  | .var _ => False
  | .selector base path => base.HasCallStep ∨ path.EndsInCall
  | .filter _ input => input.HasCallStep
  | .function _ args => Argument.AnyCallStep args

def Argument.AnyCallStep : List Argument → Prop
  | [] => False
  | arg :: args => arg.HasCallStep ∨ Argument.AnyCallStep args

def Argument.HasCallStep : Argument → Prop
  | .literal _ _ => False
  | .value _ expr => expr.HasCallStep

end

end TemplateEngine
