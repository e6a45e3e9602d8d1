import TemplateEngine.Node.Kind

/-! # Malformed trees

The ways in which a stored tree can fail to be a template. -/

namespace TemplateEngine

/-- The number of children that a kind of node wants. -/
inductive Arity where
  | one
  | noneOrTwo
  | iterable
  deriving DecidableEq, Repr

def Arity.text : Arity → String
  | .one => "exactly one child"
  | .noneOrTwo => "zero or two children"
  | .iterable => "an iterable expression"

inductive CondFault where
  | tooFew
  | tooMany
  | firstChild
  | secondChild
  | thirdChild
  deriving DecidableEq, Repr

def CondFault.text : CondFault → String
  | .tooFew => "expected a test and a consequence"
  | .tooMany => "expected at most one alternative"
  | .firstChild => "first child must be a cond_expression"
  | .secondChild => "second child must be a cond_consequence"
  | .thirdChild => "third child must be a cond or a cond_alternative"

inductive NodeError where
  /-- A kind stands in a layer that does not take it. -/
  | invalidKind (layer : Layer) (kind : NodeKind)
  | arity (kind : NodeKind) (expected : Arity) (found : Nat)
  | missingName (kind : NodeKind)
  /-- An argument has both a text and a child. -/
  | ambiguousArgument
  | danglingParameter (name : String)
  | duplicateArgument (name : String)
  | invalidConditional (fault : CondFault)
  /-- A block stands directly inside a block of its own name. -/
  | recursiveBlock (name : String)
  deriving DecidableEq, Repr

namespace NodeError

def message : NodeError → String
  | .invalidKind layer kind =>
    "invalid " ++ layer.text ++ " node `" ++ kind.tag ++ "` (belongs to the " ++ kind.layer.text ++
      " layer)"
  | .arity kind expected found =>
    "`" ++ kind.tag ++ "` node should have " ++ expected.text ++ ", found " ++ found.repr
  | .missingName kind => "`" ++ kind.tag ++ "` node requires a non-empty name"
  | .ambiguousArgument =>
    "argument value should not be a literal and an expression at the same time"
  | .danglingParameter name => "parameter `" ++ name ++ "` is not followed by an argument"
  | .duplicateArgument name => "argument `" ++ name ++ "` is named more than once"
  | .invalidConditional fault => "invalid conditional node: " ++ fault.text
  | .recursiveBlock name => "`" ++ name ++ "` block should not be recursive"

/-- Whether blocks are at fault rather than the shape of the tree. -/
def isInheritance : NodeError → Bool
  | .recursiveBlock _ => true
  | _ => false

end NodeError

end TemplateEngine
