import Mathlib.Logic.Relation
import TemplateEngine.Render.Evaluation

/-! # Moments of a render

A render goes on step by step. Between two steps it stands at a moment: the nodes that are still to
be evaluated, level by level, the context, the sink and the assignments made so far. A step depends
on its moment alone, so that a render has one run. -/

namespace TemplateEngine

namespace Context

mutual

/-- The nodes that a conditional goes on in. -/
def branch (context : Context) : Cond → Except RenderError (List Node)
  | .mk test consequence alternative => do
    let value ← context.eval test
    if value.isTruthy then return consequence else context.otherwise alternative

def otherwise (context : Context) : CondAlternative → Except RenderError (List Node)
  | .nothing => .ok []
  | .elseIf cond => context.branch cond
  | .otherwise body => .ok body

end

end Context

/-- One run of the body of a loop: what its variable stands for, which one it is and of how many. -/
structure Iteration where
  item : String
  value : Value
  index : Nat
  length : Nat

def Iteration.frame (iteration : Iteration) : Dict Value :=
  loopFrame iteration.item iteration.value iteration.index iteration.length

inductive Entry where
  /-- They stand inside the other node. -/
  | inside
  | inclusion (name : String)
  | override (name : String)
  | iteration (iteration : Iteration)

/-- What is taken back of the context after the nodes. -/
def Entry.leave : Entry → Context → Context
  | .inside => id
  | .inclusion _ => Context.leaveInclude
  | .override _ => Context.leaveYield
  | .iteration _ => Context.popFrame

/-- What a node does by itself, before the nodes that it goes on in. -/
inductive Effect (σ : Type) where
  /-- It is done, and made these assignments. -/
  | passes (context : Context) (out : σ) (made : List (String × Value))
  | enters (entry : Entry) (nodes : List Node) (inner : Context)
  | loops (item : String) (values : List Value) (body : List Node)
  | fails (error : RenderError) (out : σ)

section

variable {σ : Type}

def Effect.after {α : Type} (out : σ) (result : Except RenderError α) (next : α → Effect σ) :
    Effect σ :=
  match result with
  | .ok value => next value
  | .error error => .fails error out

def Effect.written (context : Context) : Except String Unit × σ → Effect σ
  | (.ok (), out) => .passes context out []
  | (.error reason, out) => .fails (.writeFailed reason) out

def Node.effect (sink : Sink σ) (context : Context) (out : σ) : Node → Effect σ
  | .source children => .enters .inside children context
  | .content text => .written context (sink.writeText text out)
  | .comment _ => .passes context out []
  | .display expr => .after out (context.eval expr) fun value =>
      .written context (sink.write value out)
  | .inclusion name =>
    match context.store.find? name with
    | none => .fails (.unknownTemplate name) out
    | some template =>
      .after out (context.enterInclude name) (.enters (.inclusion name) [template.root])
  | .block _ _ => .passes context out []
  | .statement (.cond cond) => .after out (context.branch cond) fun nodes =>
      .enters .inside nodes context
  | .statement (.yield name default) =>
    match context.block? name with
    | none => .enters .inside default context
    | some nodes => .after out (context.enterYield name) (.enters (.override name) nodes)
  | .statement (.loop item iterable body) =>
      .after out (do (← context.eval iterable).items item) fun values => .loops item values body
  | .statement (.assign name expr) => .after out (context.eval expr) fun value =>
      .passes (context.assign name value) out [(name, value)]

end

/-- Nodes to evaluate, or iterations to run. -/
inductive Level where
  | nodes (entry : Entry) (todo : List Node)
  | loop (item : String) (length : Nat) (body : List Node) (todo : List (Value × Nat))

structure Moment (σ : Type) where
  /-- What is open, innermost first. -/
  levels : List Level
  context : Context
  out : σ
  /-- The assignments made so far, the last one first. -/
  made : List (String × Value) := []

section

variable {σ : Type} (sink : Sink σ)

inductive Step : Moment σ → Moment σ → Prop
  | pass {node : Node} {todo : List Node} {entry : Entry} {levels : List Level}
      {context context' : Context} {out out' : σ} {made made' : List (String × Value)}
      (h : node.effect sink context out = .passes context' out' made') :
      Step ⟨.nodes entry (node :: todo) :: levels, context, out, made⟩
        ⟨.nodes entry todo :: levels, context', out', made' ++ made⟩
  | enter {node : Node} {todo nodes : List Node} {entry entry' : Entry} {levels : List Level}
      {context inner : Context} {out : σ} {made : List (String × Value)}
      (h : node.effect sink context out = .enters entry' nodes inner) :
      Step ⟨.nodes entry (node :: todo) :: levels, context, out, made⟩
        ⟨.nodes entry' nodes :: .nodes entry todo :: levels, inner, out, made⟩
  | loop {node : Node} {todo body : List Node} {entry : Entry} {levels : List Level}
      {context : Context} {out : σ} {made : List (String × Value)} {item : String}
      {values : List Value} (h : node.effect sink context out = .loops item values body) :
      Step ⟨.nodes entry (node :: todo) :: levels, context, out, made⟩
        ⟨.loop item values.length body values.zipIdx :: .nodes entry todo :: levels,
          context, out, made⟩
  | iterate {item : String} {length index : Nat} {body : List Node} {value : Value}
      {todo : List (Value × Nat)} {levels : List Level} {context : Context} {out : σ}
      {made : List (String × Value)} :
      Step ⟨.loop item length body ((value, index) :: todo) :: levels, context, out, made⟩
        ⟨.nodes (.iteration ⟨item, value, index, length⟩) body ::
          .loop item length body todo :: levels,
          context.pushFrame (loopFrame item value index length), out, made⟩
  | finish {item : String} {length : Nat} {body : List Node} {levels : List Level}
      {context : Context} {out : σ} {made : List (String × Value)} :
      Step ⟨.loop item length body [] :: levels, context, out, made⟩ ⟨levels, context, out, made⟩
  | leave {entry : Entry} {levels : List Level} {context : Context} {out : σ}
      {made : List (String × Value)} :
      Step ⟨.nodes entry [] :: levels, context, out, made⟩
        ⟨levels, entry.leave context, out, made⟩

/-- A render that is at one moment comes to another, in any number of steps. -/
abbrev Reaches : Moment σ → Moment σ → Prop :=
  Relation.ReflTransGen (Step sink)

/-- A render ends where nothing is left to do, or where a node fails. -/
inductive Moment.Ends : Moment σ → Except RenderError Unit × σ → Prop
  | done {context : Context} {out : σ} {made : List (String × Value)} :
      Ends ⟨[], context, out, made⟩ (.ok (), out)
  | fails {node : Node} {todo : List Node} {entry : Entry} {levels : List Level}
      {context : Context} {out out' : σ} {made : List (String × Value)} {error : RenderError}
      (h : node.effect sink context out = .fails error out') :
      Ends ⟨.nodes entry (node :: todo) :: levels, context, out, made⟩ (.error error, out')

variable {sink}

theorem Step.unique {moment next other : Moment σ} (h : Step sink moment next)
    (h' : Step sink moment other) : next = other := by
  cases h with
  | pass h =>
    cases h' with
    | pass h' => cases h.symm.trans h'; rfl
    | enter h' => cases h.symm.trans h'
    | loop h' => cases h.symm.trans h'
  | enter h =>
    cases h' with
    | pass h' => cases h.symm.trans h'
    | enter h' => cases h.symm.trans h'; rfl
    | loop h' => cases h.symm.trans h'
  | loop h =>
    cases h' with
    | pass h' => cases h.symm.trans h'
    | enter h' => cases h.symm.trans h'
    | loop h' => cases h.symm.trans h'; rfl
  | iterate => cases h'; rfl
  | finish => cases h'; rfl
  | leave => cases h'; rfl

theorem Moment.Ends.not_step {moment next : Moment σ} {ended : Except RenderError Unit × σ}
    (h : moment.Ends sink ended) : ¬Step sink moment next := by
  intro hstep
  cases h with
  | done => cases hstep
  | fails h =>
    cases hstep with
    | pass h' => cases h.symm.trans h'
    | enter h' => cases h.symm.trans h'
    | loop h' => cases h.symm.trans h'

theorem Moment.Ends.unique {moment : Moment σ} {ended other : Except RenderError Unit × σ}
    (h : moment.Ends sink ended) (h' : moment.Ends sink other) : ended = other := by
  cases h with
  | done => cases h'; rfl
  | fails h =>
    cases h' with
    | fails h' => cases h.symm.trans h'; rfl

theorem Reaches.ends_unique {start last last' : Moment σ}
    {ended other : Except RenderError Unit × σ} (h : Reaches sink start last)
    (hends : last.Ends sink ended) (h' : Reaches sink start last')
    (hends' : last'.Ends sink other) : ended = other := by
  have hunique : Relator.RightUnique (Step sink) := fun _ _ _ hnext hother =>
    hnext.unique hother
  have hstuck : ∀ {moment moment' : Moment σ} {result : Except RenderError Unit × σ},
      moment.Ends sink result → Reaches sink moment moment' → moment' = moment := by
    intro moment moment' result hends hreaches
    rcases Relation.ReflTransGen.cases_head hreaches with heq | ⟨next, hnext, -⟩
    · exact heq.symm
    · exact absurd hnext hends.not_step
  rcases Relation.ReflTransGen.total_of_right_unique hunique h h' with hforth | hback
  · obtain rfl := hstuck hends hforth
    exact hends.unique hends'
  · obtain rfl := hstuck hends' hback
    exact hends.unique hends'

end

end TemplateEngine
