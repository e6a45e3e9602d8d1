import TemplateEngine.Markup.Error
import TemplateEngine.Node.Error

/-! # Errors of registration and rendering

The first error ends a render. What was written before stays written. -/

namespace TemplateEngine

inductive RenderError where
  | markup (error : MarkupError Position)
  | node (error : NodeError)
  /-- A text is not the document of a template. -/
  | document
  | unknownVariable (name : String)
  | unknownField (name : String)
  | unknownFilter (name : String)
  | unknownFunction (name : String)
  | unknownTemplate (name : String)
  /-- A call, a filter or a text stands where a field should be named. -/
  | notAField (kind : NodeKind)
  /-- The last step of a path is no name. -/
  | notAnAccessor (kind : NodeKind)
  | notIterable (item : String) (found : String)
  | circularInclude (chain : List String)
  | recursiveYield (chain : List String)
  | includeDepthExceeded (limit : Nat)
  | filterFailed (name : String) (reason : String)
  | functionFailed (name : String) (reason : String)
  | writeFailed (reason : String)
  /-- Includes and overrides nest beyond every bound that their guards leave. -/
  | endless
  deriving DecidableEq, Repr

inductive ErrorKind where
  | parse
  | lookup
  | structural
  | inheritance
  | callback
  | io
  deriving DecidableEq, Repr

namespace RenderError

def kind : RenderError → ErrorKind
  | .markup _ | .document => .parse
  | .node error => if error.isInheritance then .inheritance else .structural
  | .recursiveYield _ => .inheritance
  | .notAField _ | .notAnAccessor _ | .notIterable _ _ | .circularInclude _
  | .includeDepthExceeded _ | .endless => .structural
  | .unknownVariable _ | .unknownField _ | .unknownFilter _ | .unknownFunction _
  | .unknownTemplate _ => .lookup
  | .filterFailed _ _ | .functionFailed _ _ => .callback
  | .writeFailed _ => .io

/-- The text of the error that lies behind this one. -/
def cause? : RenderError → Option String
  | .markup error => some error.message
  | .node error => some error.message
  | .document => some "not a template document"
  | .filterFailed _ reason => some reason
  | .functionFailed _ reason => some reason
  | .writeFailed reason => some reason
  | _ => none

def chainText (chain : List String) : String :=
  String.intercalate " -> " chain

def message : RenderError → String
  | .markup error => "parse error: " ++ error.message
  | .node error => "invalid template: " ++ error.message
  | .document => "template document error: not a template document"
  | .unknownVariable name => "variable `" ++ name ++ "` does not exist"
  | .unknownField name => "field `" ++ name ++ "` does not exist"
  | .unknownFilter name => "filter `" ++ name ++ "` does not exist"
  | .unknownFunction name => "function `" ++ name ++ "` does not exist"
  | .unknownTemplate name => "template `" ++ name ++ "` does not exist"
  | .notAField kind => "invalid selector: `" ++ kind.tag ++ "` cannot name a field"
  | .notAnAccessor kind => "invalid selector: `" ++ kind.tag ++ "` node used as an accessor"
  | .notIterable item found =>
    "cannot iterate over " ++ found ++ " value in loop `" ++ item ++ "`"
  | .circularInclude chain => "circular include: " ++ chainText chain
  | .recursiveYield chain => "recursive yield: " ++ chainText chain
  | .includeDepthExceeded limit => "include depth exceeds " ++ limit.repr ++ " templates"
  | .filterFailed name reason => "filter `" ++ name ++ "` failed: " ++ reason
  | .functionFailed name reason => "function `" ++ name ++ "` failed: " ++ reason
  | .writeFailed reason => "failed to write output: " ++ reason
  | .endless => "includes and overrides do not end"

/-- The messages from the error down to what lies behind it. -/
def messages (error : RenderError) : List String :=
  error.message :: error.cause?.toList

end RenderError

end TemplateEngine
