import TemplateEngine.Proofs.Render.Keeping

/-! # Static trees

A tree without includes, yields and blocks says all that it writes. Where it stands makes no
difference to it: only bindings and callbacks do. -/

namespace TemplateEngine

/-- Neither includes nor yields nor blocks. -/
def Scope.static : Scope :=
  { inclusion := fun _ => False, yield := fun _ => False, block := False }

namespace Context

/-- The bindings and callbacks of one context in the place of another. -/
def moveTo (context place : Context) : Context :=
  { place with
    data := context.data, assigned := context.assigned, frames := context.frames,
    registry := context.registry }

variable (context place : Context)

theorem lookup?_moveTo (name : String) :
    (context.moveTo place).lookup? name = context.lookup? name := rfl

mutual

theorem eval_moveTo : ∀ expr : Expr, (context.moveTo place).eval expr = context.eval expr
  | .content _ => rfl
  | .var name => by rw [eval, eval, lookup?_moveTo]
  | .selector base accessor => by rw [eval, eval, eval_moveTo base]
  | .filter name input => by
    rw [eval, eval, eval_moveTo input]
    rfl
  | .function name args => by
    rw [eval, eval, evalAll_moveTo args]
    rfl

theorem evalAll_moveTo : ∀ args : List Argument,
    (context.moveTo place).evalAll args = context.evalAll args
  | [] => rfl
  | arg :: args => by rw [evalAll, evalAll, evalArgument_moveTo arg, evalAll_moveTo args]

theorem evalArgument_moveTo : ∀ arg : Argument,
    (context.moveTo place).evalArgument arg = context.evalArgument arg
  | .literal _ _ => rfl
  | .value _ expr => eval_moveTo expr

end

end Context

/-- The outcome in the place of another context. -/
def Outcome.moveTo {σ : Type} (outcome : Outcome σ) (place : Context) : Outcome σ :=
  { outcome with context := outcome.context.moveTo place }

namespace Action

variable {σ : Type}

/-- The second action does in any place what the first does in the context at hand. -/
def Moves (action action' : Action σ) : Prop :=
  ∀ context place out, action' (context.moveTo place) out = (action context out).moveTo place

namespace Moves

theorem skip : Moves (skip : Action σ) skip := fun _ _ _ => rfl

theorem fail (error : RenderError) : Moves (fail error : Action σ) (fail error) := fun _ _ _ => rfl

theorem write (put : σ → Except String Unit × σ) : Moves (write put) (write put) :=
  fun _ _ _ => rfl

theorem assignValue (name : String) (value : Value) :
    Moves (assignValue name value : Action σ) (assignValue name value) := fun _ _ _ => rfl

theorem andThen {first first' second second' : Action σ} (hfirst : Moves first first')
    (hsecond : Moves second second') : Moves (first.andThen second) (first'.andThen second') := by
  intro context place out
  unfold Action.andThen
  rw [hfirst context place out]
  have hresult : ((first context out).moveTo place).result = (first context out).result := rfl
  dsimp only
  rw [hresult]
  split
  · exact hsecond _ place _
  · rfl

theorem withValue {α : Type} {compute : Context → Except RenderError α}
    {next next' : α → Action σ}
    (hcompute : ∀ context place, compute (context.moveTo place) = compute context)
    (h : ∀ value, Moves (next value) (next' value)) :
    Moves (withValue compute next) (withValue compute next') := by
  intro context place out
  unfold Action.withValue
  rw [hcompute]
  split
  · exact h _ context place out
  · rfl

theorem inFrame (frame : Dict Value) {action action' : Action σ} (h : Moves action action') :
    Moves (inFrame frame action) (inFrame frame action') := by
  intro context place out
  have hinner := h (context.pushFrame frame) place out
  have hframe : (context.moveTo place).pushFrame frame =
      (context.pushFrame frame).moveTo place := rfl
  unfold Action.inFrame Action.within
  dsimp only
  rw [hframe, hinner]
  rfl

theorem compositional (sink : Sink σ) (expand expand' : List Node → Action σ) :
    Compositional .static sink sink expand expand' Moves where
  skip := skip
  andThen := andThen
  content _ := write _
  display {expr} _ :=
    withValue (fun context place => context.eval_moveTo place expr) fun _ => write _
  inclusion := nofun
  yield := nofun
  loop {iterable _ _} item _ hbody :=
    withValue (fun context place => by rw [context.eval_moveTo place iterable]) fun values =>
      forEach_related _ skip andThen item values fun frame => inFrame frame hbody
  assign {value} name _ :=
    withValue (fun context place => context.eval_moveTo place value) fun value =>
      assignValue name value
  branch {test _ _ _ _} _ hconsequence halternative :=
    withValue (fun context place => context.eval_moveTo place test) fun value => by
      split <;> assumption

end Moves

end Action

/-- A static tree does the same in every place, however trees elsewhere are evaluated. -/
theorem evaluateNodes_moveTo {σ : Type} (sink : Sink σ) (expand expand' : List Node → Action σ)
    {nodes : List Node} (h : Node.AllInScope .static nodes) (context place : Context) (out : σ) :
    evaluateNodes sink expand' nodes (context.moveTo place) out =
      (evaluateNodes sink expand nodes context out).moveTo place :=
  (Action.Moves.compositional sink expand expand').evaluateNodes h context place out

end TemplateEngine
