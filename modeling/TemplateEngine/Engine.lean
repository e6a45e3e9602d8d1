import TemplateEngine.Markup.Parser
import TemplateEngine.Render.Evaluation
import TemplateEngine.Template.Document

/-! # Engines

An engine keeps templates together with the callbacks of its host. A registration that fails leaves
the engine as it was. -/

namespace TemplateEngine

structure EngineConfig where
  maxIncludeDepth : Nat := defaultIncludeDepth

namespace EngineConfig

/-- A limit is an integer without sign of at most 64 bits, and the default where it is absent. -/
def ofJson? (json : Json) : Option EngineConfig := do
  let [limit] ← json.record? ["max_include_depth"] | none
  match limit with
  | none => some {}
  | some (.number numeral) =>
    match Number.ofNumeral? numeral with
    | some (.int n) => if 0 ≤ n then some ⟨n.toNat⟩ else none
    | _ => none
  | some _ => none

def toJson (config : EngineConfig) : Json :=
  .object [(some "max_include_depth", (Value.ofInt config.maxIncludeDepth).toJson)]

end EngineConfig

@[ext]
structure Engine where
  store : Store := {}
  registry : Registry := {}

namespace Engine

def withConfig (config : EngineConfig) : Engine :=
  { store := .withMaxIncludeDepth config.maxIncludeDepth }

def addFilter (engine : Engine) (name : String) (filter : Filter) : Engine :=
  { engine with registry := engine.registry.addFilter name filter }

def addFunction (engine : Engine) (name : String) (function : Function) : Engine :=
  { engine with registry := engine.registry.addFunction name function }

def addTemplate (engine : Engine) (template : Template) : Except RenderError Engine :=
  match engine.store.add template with
  | .ok store => .ok { engine with store }
  | .error error => .error (.node error)

def addSource (engine : Engine) (name source : String) : Except RenderError Engine :=
  match Markup.parse source with
  | .ok root => engine.addTemplate (.ofMarkup name root)
  | .error error => .error (.markup error)

def addDocument (engine : Engine) (text : String) : Except RenderError Engine :=
  match Document.read? text with
  | none => .error .document
  | some document =>
    match document.toTemplate with
    | .ok template => engine.addTemplate template
    | .error error => .error (.node error)

/-- Renders into a sink, and gives back what is left of it even after an error. -/
def renderTo {σ : Type} (engine : Engine) (sink : Sink σ) (name : String) (data : Dict Value)
    (out : σ) : Except RenderError Unit × σ :=
  engine.store.render engine.registry sink name data out

/-- The text of a render that succeeds. -/
def render (engine : Engine) (name : String) (data : Dict Value) : Except RenderError String :=
  let (result, text) := engine.renderTo Sink.text name data ""
  result.map fun () => text

end Engine

def compile (name source : String) : Except (MarkupError Position) Document := do
  let root ← Markup.parse source
  return .ofTemplate (.ofMarkup name root)

end TemplateEngine
