import TemplateEngine.Render.Context
import TemplateEngine.Render.Sink

/-! # Actions

An action writes to a sink and changes the context. However it ends, it leaves a context and a sink,
so that a caller can go on after an error. -/

namespace TemplateEngine

structure Outcome (σ : Type) where
  result : Except RenderError Unit
  context : Context
  sink : σ

abbrev Action (σ : Type) := Context → σ → Outcome σ

namespace Action

variable {σ : Type}

def skip : Action σ := fun context out => ⟨.ok (), context, out⟩

def fail (error : RenderError) : Action σ := fun context out => ⟨.error error, context, out⟩

/-- The second action runs only after success of the first. -/
def andThen (first second : Action σ) : Action σ := fun context out =>
  let outcome := first context out
  match outcome.result with
  | .ok () => second outcome.context outcome.sink
  | .error _ => outcome

def sequence : List (Action σ) → Action σ
  | [] => skip
  | action :: actions => action.andThen (sequence actions)

/-- Goes on with a value that is computed from the context. -/
def withValue {α : Type} (compute : Context → Except RenderError α) (next : α → Action σ) :
    Action σ := fun context out =>
  match compute context with
  | .ok value => next value context out
  | .error error => fail error context out

/-- Changes the context, runs an action, and takes the change back however the action ends. -/
def within (enter : Context → Except RenderError Context) (leave : Context → Context)
    (action : Action σ) : Action σ := fun context out =>
  match enter context with
  | .ok inner =>
    let outcome := action inner out
    { outcome with context := leave outcome.context }
  | .error error => fail error context out

/-- A write, given what it does to the sink. -/
def write (put : σ → Except String Unit × σ) : Action σ := fun context out =>
  let (result, out) := put out
  ⟨result.mapError .writeFailed, context, out⟩

end Action

end TemplateEngine
