import TemplateEngine.Proofs.Render.Arguments
import TemplateEngine.Proofs.Render.Filters

/-! # Filters that are called

A call with one argument runs the filter of its name if there is no function of that name, and then
it agrees with the pipe. Functions and filters are kept apart, so that a function which is
registered takes all calls and leaves the pipes to the filter. -/

namespace TemplateEngine

inductive Callback where
  | filter (name : String) (filter : Filter)
  | function (name : String) (function : Function)

namespace Callback

/-- Both are filters, or both are functions, under one name. -/
inductive Replaces : Callback → Callback → Prop
  | filter (name : String) (later earlier : Filter) :
      Replaces (.filter name later) (.filter name earlier)
  | function (name : String) (later earlier : Function) :
      Replaces (.function name later) (.function name earlier)

/-- The callback is registered, and nothing registered after it takes its place. -/
def Stays (callback : Callback) (callbacks : List Callback) : Prop :=
  ∃ before after, callbacks = before ++ callback :: after ∧
    ∀ later ∈ after, ¬later.Replaces callback

end Callback

namespace Registry

def register (registry : Registry) : Callback → Registry
  | .filter name filter => registry.addFilter name filter
  | .function name function => registry.addFunction name function

def registerAll (registry : Registry) (callbacks : List Callback) : Registry :=
  callbacks.foldl register registry

variable {registry : Registry} {name : String}

theorem filter?_register_of_not_replaces {callback : Callback} {filter : Filter}
    (h : ¬callback.Replaces (.filter name filter)) :
    (registry.register callback).filter? name = registry.filter? name := by
  cases callback with
  | function _ _ => rfl
  | filter other later =>
    refine Dict.find?_insert_of_ne ?_ later registry.filters
    rintro rfl
    exact h (.filter name later filter)

theorem function?_register_of_not_replaces {callback : Callback} {function : Function}
    (h : ¬callback.Replaces (.function name function)) :
    (registry.register callback).function? name = registry.function? name := by
  cases callback with
  | filter _ _ => rfl
  | function other later =>
    refine Dict.find?_insert_of_ne ?_ later registry.functions
    rintro rfl
    exact h (.function name later function)

/-- What is found stays found while nothing that is registered changes it. -/
theorem registerAll_keeps {α : Type} (find? : Registry → Option α) {callbacks : List Callback}
    (h : ∀ callback ∈ callbacks, ∀ registry, find? (registry.register callback) = find? registry)
    (registry : Registry) : find? (registry.registerAll callbacks) = find? registry := by
  induction callbacks generalizing registry with
  | nil => rfl
  | cons callback callbacks ih =>
    obtain ⟨hfirst, hothers⟩ := List.forall_mem_cons.mp h
    exact (ih hothers (registry.register callback)).trans (hfirst registry)

theorem filter?_registerAll {callbacks : List Callback} {filter : Filter}
    (h : (Callback.filter name filter).Stays callbacks) (registry : Registry) :
    (registry.registerAll callbacks).filter? name = some filter := by
  obtain ⟨before, after, rfl, hafter⟩ := h
  rw [registerAll, List.foldl_append, List.foldl_cons]
  refine (registerAll_keeps (·.filter? name) (fun later hlater registry =>
    filter?_register_of_not_replaces (hafter later hlater)) _).trans ?_
  exact Dict.find?_insert_self name filter _

theorem function?_registerAll {callbacks : List Callback} {function : Function}
    (h : (Callback.function name function).Stays callbacks) (registry : Registry) :
    (registry.registerAll callbacks).function? name = some function := by
  obtain ⟨before, after, rfl, hafter⟩ := h
  rw [registerAll, List.foldl_append, List.foldl_cons]
  refine (registerAll_keeps (·.function? name) (fun later hlater registry =>
    function?_register_of_not_replaces (hafter later hlater)) _).trans ?_
  exact Dict.find?_insert_self name function _

theorem resolve?_of_function {function : Function} (h : registry.function? name = some function)
    (count : Nat) : registry.resolve? name count = some function := by
  rw [resolve?, h]

theorem resolve?_one_of_filter {filter : Filter} (hfunction : registry.function? name = none)
    (hfilter : registry.filter? name = some filter) :
    registry.resolve? name 1 = some filter.toFunction := by
  rw [resolve?, hfunction, hfilter]
  rfl

theorem resolve?_of_ne_one (h : registry.function? name = none) {count : Nat} (hcount : count ≠ 1) :
    registry.resolve? name count = none := by
  rw [resolve?, h]
  exact if_neg hcount

end Registry

def Argument.expr : Argument → Expr
  | .literal _ text => .content text
  | .value _ expr => expr

/-- Named or not, a single argument is handed over as its value. -/
theorem Arguments.single_collect (name : Option String) (value : Value) :
    (collect [name] [value]).single = value := by
  cases name <;> rfl

namespace Context

variable {context : Context}

theorem evalArgument_eq (context : Context) (arg : Argument) :
    context.evalArgument arg = context.eval arg.expr := by
  cases arg with
  | literal _ _ => rw [evalArgument, Argument.expr, eval]
  | value _ _ => rw [evalArgument, Argument.expr]

theorem arguments_singleton (context : Context) (arg : Argument) :
    context.arguments [arg] =
      context.eval arg.expr >>= fun value => .ok (.collect [arg.name] [value]) := by
  rw [arguments, evalAll, evalAll, evalArgument_eq]
  cases context.eval arg.expr <;> rfl

theorem eval_function_of_filter {name : String} {filter : Filter}
    (hfunction : context.registry.function? name = none)
    (hfilter : context.registry.filter? name = some filter) (arg : Argument) :
    context.eval (.function name [arg]) =
      context.eval arg.expr >>= fun value => (filter value).mapError (.functionFailed name) := by
  rw [eval_function (Registry.resolve?_one_of_filter hfunction hfilter), arguments_singleton,
    bind_assoc]
  refine bind_congr fun value => ?_
  rw [ok_bind, Filter.toFunction, Arguments.single_collect]

/-- A call that resolves to nothing ends evaluation before its arguments. -/
theorem eval_function_of_none {name : String} {args : List Argument}
    (h : context.registry.resolve? name args.length = none) :
    context.eval (.function name args) = .error (.unknownFunction name) ∧
      (context.trace (.function name args)).events = [.evaluates (.function name args)] := by
  constructor
  · rw [eval, h]
  · rw [trace, Traced.record_bind, h]
    rfl

/-- A call with one argument agrees with the pipe where a filter and no function has its name: one
succeeds exactly if the other does, with the same value, an error of the argument is the error of
both, and where the filter fails both carry its reason. With another number of arguments the call
names an unknown function, and nothing is evaluated. Once a function is registered under the name it
takes all calls, and the pipes stay with the filter, whichever was registered first. -/
theorem eval_call_agrees (context : Context) (name : String) :
    (∀ filter, context.registry.function? name = none →
      context.registry.filter? name = some filter →
        (∀ arg : Argument,
          (∀ value, context.eval (.function name [arg]) = .ok value ↔
            context.eval (.filter name arg.expr) = .ok value) ∧
          (∀ error, context.eval arg.expr = .error error →
            context.eval (.function name [arg]) = .error error ∧
              context.eval (.filter name arg.expr) = .error error) ∧
          ∀ value reason, context.eval arg.expr = .ok value → filter value = .error reason →
            context.eval (.function name [arg]) = .error (.functionFailed name reason) ∧
              context.eval (.filter name arg.expr) = .error (.filterFailed name reason)) ∧
        ∀ args : List Argument, args.length ≠ 1 →
          context.eval (.function name args) = .error (.unknownFunction name) ∧
            (context.trace (.function name args)).events = [.evaluates (.function name args)]) ∧
    ∀ callbacks,
      let held := { context with registry := context.registry.registerAll callbacks }
      (∀ function, (Callback.function name function).Stays callbacks → ∀ args,
        held.eval (.function name args) =
          held.arguments args >>= fun given => (function given).mapError (.functionFailed name)) ∧
      ∀ filter, (Callback.filter name filter).Stays callbacks → ∀ input,
        held.eval (.filter name input) =
          held.eval input >>= fun value => (filter value).mapError (.filterFailed name) := by
  refine ⟨fun filter hfunction hfilter => ⟨fun arg => ?_, fun args hlength => ?_⟩,
    fun callbacks => ⟨fun function hstays args => ?_, fun filter hstays input => ?_⟩⟩
  · have hpipe : context.eval (.filter name arg.expr) = context.eval arg.expr >>= fun value =>
        (filter value).mapError (.filterFailed name) := eval_filter hfilter arg.expr
    rw [eval_function_of_filter hfunction hfilter, hpipe]
    refine ⟨fun value => ?_, fun error herror => ?_, fun value reason hvalue hreason => ?_⟩
    · cases context.eval arg.expr with
      | error error => exact ⟨nofun, nofun⟩
      | ok input =>
        rw [ok_bind, ok_bind]
        cases filter input with
        | error reason => exact ⟨nofun, nofun⟩
        | ok result => exact Iff.rfl
    · rw [herror]
      exact ⟨rfl, rfl⟩
    · rw [hvalue, ok_bind, ok_bind, hreason]
      exact ⟨rfl, rfl⟩
  · exact eval_function_of_none (Registry.resolve?_of_ne_one hfunction hlength)
  · have hfound := Registry.function?_registerAll hstays context.registry
    exact eval_function (Registry.resolve?_of_function hfound _)
  · exact eval_filter (Registry.filter?_registerAll hstays context.registry) input

/-- A greeting is called with and without a name, and a filter that always fails is called too. In
the end a function takes the calls of a name and the failing filter its pipes. -/
theorem eval_call_agrees_shout :
    shoutContext.eval (.function "shout" [.literal (some "text") "Hi"]) = .ok (.string "Hi!") ∧
      shoutContext.eval (.function "refuse" [.value none (.var "a")]) =
        .error (.functionFailed "refuse" "no") ∧
      shoutContext.eval (.function "shout" [.value none (.var "b")]) =
        .error (.unknownVariable "b") ∧
      shoutContext.eval (.function "shout" [.literal none "Hi", .value none (.var "b")]) =
        .error (.unknownFunction "shout") ∧
      let callbacks : List Callback :=
        [.function "shout" fun given => .ok (.ofInt given.length), .filter "shout" refuse]
      let held := { shoutContext with
        registry := shoutContext.registry.registerAll callbacks }
      held.eval (.function "shout" []) = .ok (.ofInt 0) ∧
        held.eval (.filter "shout" (.var "a")) = .error (.filterFailed "shout" "no") := by
  obtain ⟨hcall, hheld⟩ := shoutContext.eval_call_agrees "shout"
  obtain ⟨hrefused, -⟩ := shoutContext.eval_call_agrees "refuse"
  obtain ⟨hsingle, hcount⟩ := hcall shout rfl rfl
  refine ⟨?_, ?_, ?_, ?_, ?_, ?_⟩
  · exact ((hsingle (.literal (some "text") "Hi")).1 _).mpr rfl
  · exact (((hrefused refuse rfl rfl).1 (.value none (.var "a"))).2.2 _ _ rfl rfl).1
  · exact ((hsingle (.value none (.var "b"))).2.1 _ rfl).1
  · exact (hcount _ (by decide)).1
  · exact (hheld _).1 _ ⟨[], [.filter "shout" refuse], rfl,
      List.forall_mem_singleton.mpr nofun⟩ []
  · exact (hheld _).2 _ ⟨[.function "shout" fun given => .ok (.ofInt given.length)], [], rfl, nofun⟩
      (.var "a")

end Context

end TemplateEngine
