import TemplateEngine.Node.Error
import TemplateEngine.Node.Raw
import TemplateEngine.Node.Tree

/-! # From stored trees to typed trees

How a tag is read depends on the layer it stands in. The first fault from left to right is
reported, and of a node its own before those of its children. Texts and children that a kind does
not use are passed over. -/

namespace TemplateEngine

namespace RawNode

def requireName (kind : NodeKind) (name : String) : Except NodeError String :=
  if name = "" then .error (.missingName kind) else .ok name

mutual

def lowerExpr : RawNode → Except NodeError Expr
  | ⟨.content, value, _⟩ => .ok (.content value)
  | ⟨.var, value, []⟩ => return .var (← requireName .var value)
  | ⟨.var, _, [base, accessor]⟩ => do
    let base ← lowerExpr base
    let accessor ← lowerExpr accessor
    return .selector base accessor
  | ⟨.var, _, children⟩ => .error (.arity .var .noneOrTwo children.length)
  | ⟨.filter, value, children⟩ => do
    let name ← requireName .filter value
    let input ← lowerOnly .filter children
    return .filter name input
  | ⟨.function, value, children⟩ => do
    let name ← requireName .function value
    let args ← lowerArguments [] none children
    return .function name args
  | ⟨kind, _, _⟩ => .error (.invalidKind .expression kind)
termination_by structural node => node

/-- The expression that is the only child of a node. -/
def lowerOnly (kind : NodeKind) : List RawNode → Except NodeError Expr
  | [child] => lowerExpr child
  | children => .error (.arity kind .one children.length)
termination_by structural children => children

/-- The arguments of a call after arguments named `given`, the first of them with the name
`pending` if there is one. -/
def lowerArguments (given : List String) (pending : Option String) :
    List RawNode → Except NodeError (List Argument)
  | [] =>
    match pending with
    | some name => .error (.danglingParameter name)
    | none => .ok []
  | child :: children =>
    match child.kind with
    | .parameter => do
      let name ← requireName .parameter child.value
      if name ∈ given then .error (.duplicateArgument name)
      else
        match pending with
        | some previous => .error (.danglingParameter previous)
        | none => lowerArguments given (some name) children
    | .argument => do
      let arg ← lowerArgument pending child
      let args ← lowerArguments (pending.toList ++ given) none children
      return arg :: args
    | kind => .error (.invalidKind .argument kind)
termination_by structural children => children

def lowerArgument (name : Option String) : RawNode → Except NodeError Argument
  | ⟨_, value, []⟩ => .ok (.literal name value)
  | ⟨_, value, children⟩ =>
    if value = "" then return .value name (← lowerOnly .argument children)
    else .error .ambiguousArgument
termination_by structural node => node

end

def lowerTest : RawNode → Except NodeError Expr
  | ⟨.condExpression, _, children⟩ => lowerOnly .condExpression children
  | _ => .error (.invalidConditional .firstChild)

mutual

def lowerNode : RawNode → Except NodeError Node
  | ⟨.source, _, children⟩ => return .source (← lowerNodes children)
  | ⟨.content, value, _⟩ => .ok (.content value)
  | ⟨.comment, value, _⟩ => .ok (.comment value)
  | ⟨.inclusion, value, _⟩ => return .inclusion (← requireName .inclusion value)
  | ⟨.display, _, children⟩ => return .display (← lowerOnly .display children)
  | ⟨.statement, _, children⟩ => return .statement (← lowerOnlyStatement children)
  | ⟨.block, value, children⟩ => do
    let name ← requireName .block value
    let children ← lowerNodes children
    return .block name children
  | ⟨kind, _, _⟩ => .error (.invalidKind .structural kind)
termination_by structural node => node

def lowerNodes : List RawNode → Except NodeError (List Node)
  | [] => .ok []
  | child :: children => do
    let node ← lowerNode child
    let nodes ← lowerNodes children
    return node :: nodes
termination_by structural children => children

def lowerStatement : RawNode → Except NodeError Statement
  | ⟨.cond, _, children⟩ => return .cond (← lowerCond children)
  | ⟨.yield, value, children⟩ => do
    let name ← requireName .yield value
    let default ← lowerNodes children
    return .yield name default
  | ⟨.loop, value, children⟩ => do
    let item ← requireName .loop value
    lowerLoop item children
  | ⟨.assign, value, children⟩ => do
    let name ← requireName .assign value
    let value ← lowerOnly .assign children
    return .assign name value
  | ⟨kind, _, _⟩ => .error (.invalidKind .statement kind)
termination_by structural node => node

/-- The statement that is the only child of a node. -/
def lowerOnlyStatement : List RawNode → Except NodeError Statement
  | [child] => lowerStatement child
  | children => .error (.arity .statement .one children.length)
termination_by structural children => children

/-- A loop is over its first child. -/
def lowerLoop (item : String) : List RawNode → Except NodeError Statement
  | [] => .error (.arity .loop .iterable 0)
  | iterable :: body => do
    let iterable ← lowerExpr iterable
    let body ← lowerNodes body
    return .loop item iterable body
termination_by structural children => children

/-- The children of a conditional. They are counted before any of them is looked at. -/
def lowerCond : List RawNode → Except NodeError Cond
  | [test, consequence] => do
    let test ← lowerTest test
    let consequence ← lowerConsequence consequence
    return .mk test consequence .nothing
  | [test, consequence, alternative] => do
    let test ← lowerTest test
    let consequence ← lowerConsequence consequence
    let alternative ← lowerAlternative alternative
    return .mk test consequence alternative
  | _ :: _ :: _ :: _ :: _ => .error (.invalidConditional .tooMany)
  | _ => .error (.invalidConditional .tooFew)
termination_by structural children => children

def lowerConsequence : RawNode → Except NodeError (List Node)
  | ⟨.condConsequence, _, children⟩ => lowerNodes children
  | _ => .error (.invalidConditional .secondChild)
termination_by structural node => node

def lowerAlternative : RawNode → Except NodeError CondAlternative
  | ⟨.cond, _, children⟩ => return .elseIf (← lowerCond children)
  | ⟨.condAlternative, _, children⟩ => return .otherwise (← lowerNodes children)
  | _ => .error (.invalidConditional .thirdChild)
termination_by structural node => node

end

end RawNode

end TemplateEngine
