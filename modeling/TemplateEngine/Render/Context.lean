import TemplateEngine.Render.Callback
import TemplateEngine.Render.Error
import TemplateEngine.Render.Store

/-! # Contexts

What a render needs besides the tree at hand: the data of the host, the assignments made so far, the
bindings of the loops around, and the includes and overrides that are being expanded. -/

namespace TemplateEngine

structure Context where
  data : Dict Value
  /-- Assignments, which last for the whole render. -/
  assigned : Dict Value := []
  /-- Bindings of the loops around, innermost first. -/
  frames : List (Dict Value) := []
  blocks : BlockMap
  registry : Registry
  store : Store
  /-- The template being rendered. -/
  entry : String
  /-- Templates being included, innermost first. -/
  included : List String := []
  /-- Overrides being expanded, innermost first. -/
  yields : List String := []

namespace Context

/-- The first value under a name in dictionaries that are looked through in turn. -/
def findIn? (dicts : List (Dict Value)) (name : String) : Option Value :=
  dicts.findSome? (Dict.find? · name)

/-- Loops hide assignments and these the data. -/
def lookup? (context : Context) (name : String) : Option Value :=
  findIn? (context.frames ++ [context.assigned, context.data]) name

def assign (context : Context) (name : String) (value : Value) : Context :=
  { context with assigned := Dict.insert name value context.assigned }

def pushFrame (context : Context) (frame : Dict Value) : Context :=
  { context with frames := frame :: context.frames }

def popFrame (context : Context) : Context :=
  { context with frames := context.frames.tail }

/-- What a yield writes instead of its default. -/
def block? (context : Context) (name : String) : Option (List Node) :=
  Dict.find? context.blocks name

/-- The templates from the one rendered to the innermost included. -/
def includeChain (context : Context) : List String :=
  context.entry :: context.included.reverse

/-- Starts to include a template that is not being rendered already, if the chain has room. -/
def enterInclude (context : Context) (name : String) : Except RenderError Context :=
  if name ∈ context.includeChain then
    .error (.circularInclude (context.includeChain ++ [name]))
  else if context.store.maxIncludeDepth ≤ context.includeChain.length then
    .error (.includeDepthExceeded context.store.maxIncludeDepth)
  else .ok { context with included := name :: context.included }

def leaveInclude (context : Context) : Context :=
  { context with included := context.included.tail }

/-- Starts to expand an override that is not being expanded already. -/
def enterYield (context : Context) (name : String) : Except RenderError Context :=
  if name ∈ context.yields then
    .error (.recursiveYield (context.yields.reverse ++ [name]))
  else .ok { context with yields := name :: context.yields }

def leaveYield (context : Context) : Context :=
  { context with yields := context.yields.tail }

/-- How many more includes and overrides the guards let nest in one another. -/
def room (context : Context) : Nat :=
  (context.store.maxIncludeDepth - context.includeChain.length) +
    (context.blocks.length - context.yields.length)

end Context

end TemplateEngine
