import TemplateEngine.Proofs.Except
import TemplateEngine.Render.Expression

/-! # What happens on the way to a value

Expressions are evaluated with a record of the expressions that are come to and the callbacks that
are run. Without the record this is evaluation. -/

namespace TemplateEngine

inductive Event where
  | evaluates (expr : Expr)
  | filters (name : String) (value : Value)
  | calls (name : String) (given : Arguments)

/-- A result and what happened on the way to it, in order. -/
structure Traced (α : Type) where
  result : Except RenderError α
  events : List Event

namespace Traced

variable {α β : Type}

def ofResult (result : Except RenderError α) : Traced α := ⟨result, []⟩

def record (event : Event) : Traced Unit := ⟨.ok (), [event]⟩

/-- After an error nothing happens any more. -/
def andThen (traced : Traced α) (next : α → Traced β) : Traced β :=
  match traced.result with
  | .ok value => ⟨(next value).result, traced.events ++ (next value).events⟩
  | .error error => ⟨.error error, traced.events⟩

instance : Monad Traced where
  pure value := ofResult (.ok value)
  bind := andThen

theorem result_bind (traced : Traced α) (next : α → Traced β) :
    (traced >>= next).result = traced.result >>= fun value => (next value).result := by
  change (traced.andThen next).result = _
  unfold andThen
  cases traced.result with
  | ok value => rfl
  | error error => rfl

theorem record_bind (event : Event) (next : Unit → Traced α) :
    record event >>= next = ⟨(next ()).result, event :: (next ()).events⟩ := rfl

theorem events_bind_of_ok {traced : Traced α} {value : α} (h : traced.result = .ok value)
    (next : α → Traced β) :
    (traced >>= next).events = traced.events ++ (next value).events := by
  change (traced.andThen next).events = _
  rw [andThen, h]

theorem events_bind_of_error {traced : Traced α} {error : RenderError}
    (h : traced.result = .error error) (next : α → Traced β) :
    (traced >>= next).events = traced.events := by
  change (traced.andThen next).events = _
  rw [andThen, h]

theorem events_bind_ofResult (traced : Traced α) (next : α → Except RenderError β) :
    (traced >>= fun value => ofResult (next value)).events = traced.events := by
  cases hresult : traced.result with
  | ok value => exact (events_bind_of_ok hresult _).trans (List.append_nil _)
  | error error => exact events_bind_of_error hresult _

end Traced

namespace Context

variable (context : Context)

mutual

def trace (context : Context) : Expr → Traced Value
  | .content text => do
    .record (.evaluates (.content text))
    return .string text
  | .var name => do
    .record (.evaluates (.var name))
    .ofResult ((context.lookup? name).elim (.error (.unknownVariable name)) .ok)
  | .selector base accessor => do
    .record (.evaluates (.selector base accessor))
    let value ← trace context base
    .ofResult (value.select accessor)
  | .filter name input => do
    .record (.evaluates (.filter name input))
    match context.registry.filter? name with
    | none => .ofResult (.error (.unknownFilter name))
    | some filter => do
      let value ← trace context input
      .record (.filters name value)
      .ofResult ((filter value).mapError (.filterFailed name))
  | .function name args => do
    .record (.evaluates (.function name args))
    match context.registry.resolve? name args.length with
    | none => .ofResult (.error (.unknownFunction name))
    | some function => do
      let values ← traceAll context args
      let given := Arguments.collect (args.map Argument.name) values
      .record (.calls name given)
      .ofResult ((function given).mapError (.functionFailed name))

def traceAll (context : Context) : List Argument → Traced (List Value)
  | [] => return []
  | arg :: args => do
    let value ← traceArgument context arg
    let values ← traceAll context args
    return value :: values

def traceArgument (context : Context) : Argument → Traced Value
  | .literal _ text => return .string text
  | .value _ expr => trace context expr

end

mutual

/-- With a record, evaluation comes to the same result. -/
theorem result_trace : ∀ expr : Expr, (context.trace expr).result = context.eval expr
  | .content _ => rfl
  | .var name => by
    rw [trace, eval, Traced.record_bind]
    cases context.lookup? name with
    | none => rfl
    | some value => rfl
  | .selector base accessor => by
    rw [trace, eval, Traced.record_bind, Traced.result_bind, result_trace base]
    rfl
  | .filter name input => by
    rw [trace, eval, Traced.record_bind]
    cases context.registry.filter? name with
    | none => rfl
    | some filter =>
      dsimp only
      rw [Traced.result_bind, result_trace input]
      rfl
  | .function name args => by
    rw [trace, eval, Traced.record_bind]
    cases context.registry.resolve? name args.length with
    | none => rfl
    | some function =>
      dsimp only
      rw [Traced.result_bind, result_traceAll args]
      rfl

theorem result_traceAll : ∀ args : List Argument,
    (context.traceAll args).result = context.evalAll args
  | [] => rfl
  | arg :: args => by
    rw [traceAll, evalAll, Traced.result_bind, result_traceArgument arg]
    refine bind_congr fun value => ?_
    rw [Traced.result_bind, result_traceAll args]
    rfl

theorem result_traceArgument : ∀ arg : Argument,
    (context.traceArgument arg).result = context.evalArgument arg
  | .literal _ _ => rfl
  | .value _ expr => result_trace expr

end

/-- Of a selector nothing is evaluated but its base. -/
theorem events_trace_selector (base accessor : Expr) :
    (context.trace (.selector base accessor)).events =
      .evaluates (.selector base accessor) :: (context.trace base).events := by
  rw [trace, Traced.record_bind, Traced.events_bind_ofResult]

/-- A filter that is unknown ends evaluation before its input. -/
theorem events_trace_filter_of_none {name : String} (h : context.registry.filter? name = none)
    (input : Expr) :
    (context.trace (.filter name input)).events = [.evaluates (.filter name input)] := by
  rw [trace, Traced.record_bind, h]
  rfl

end Context

end TemplateEngine
