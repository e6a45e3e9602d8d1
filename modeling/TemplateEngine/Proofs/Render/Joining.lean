import TemplateEngine.Proofs.Render.Promotion
import TemplateEngine.Proofs.Render.Sequence
import TemplateEngine.Proofs.Render.Termination
import TemplateEngine.Render.Builtins

/-! # Joined displays

The function that joins its arguments writes what displays of the arguments write one after another.
So a call of it among its own arguments may be replaced by the arguments of that call. -/

namespace TemplateEngine

theorem Registry.function?_addBuiltins (registry : Registry) :
    registry.addBuiltins.function? "concat" = some concat :=
  Dict.find?_insert_self "concat" concat _

abbrev Expr.joining (args : List Argument) : Expr :=
  .function "concat" args

def Argument.Positional (args : List Argument) : Prop :=
  ∀ arg ∈ args, arg.name = none

namespace Context

variable {context : Context}

/-- The texts of arguments one after another, up to the first that has no value. -/
def joined (context : Context) : List Argument → Except RenderError String
  | [] => .ok ""
  | arg :: args => do
    let value ← context.eval arg.expr
    let text ← joined context args
    return value.display ++ text

theorem joined_eq (context : Context) (args : List Argument) :
    context.joined args =
      context.evalAll args >>= fun values => .ok (String.join (values.map Value.display)) := by
  induction args with
  | nil => rfl
  | cons arg args ih =>
    rw [joined, ih, evalAll, evalArgument_eq, bind_assoc]
    refine bind_congr fun value => ?_
    cases context.evalAll args with
    | error error => rfl
    | ok values => exact congrArg Except.ok String.join_cons.symm

theorem joined_append (context : Context) (args others : List Argument) :
    context.joined (args ++ others) = do
      let text ← context.joined args
      let rest ← context.joined others
      return text ++ rest := by
  induction args with
  | nil =>
    rw [List.nil_append, joined, ok_bind]
    cases context.joined others with
    | error error => rfl
    | ok rest => exact congrArg Except.ok String.empty_append.symm
  | cons arg args ih =>
    rw [List.cons_append, joined, joined, ih]
    cases context.eval arg.expr with
    | error error => rfl
    | ok value =>
      cases context.joined args with
      | error error => rfl
      | ok text =>
        cases context.joined others with
        | error error => rfl
        | ok rest => exact congrArg Except.ok String.append_assoc.symm

theorem joined_singleton (context : Context) (arg : Argument) :
    context.joined [arg] = context.eval arg.expr >>= fun value => .ok value.display := by
  rw [joined]
  refine bind_congr fun value => ?_
  exact congrArg Except.ok String.append_empty

end Context

/-- None, one or several arguments are handed over in different ways and all give their values. -/
theorem Arguments.values_collect_of_positional {args : List Argument}
    (h : Argument.Positional args) (values : List Value) :
    (collect (args.map Argument.name) values).values = values := by
  rw [collect_of_unnamed (Argument.names_eq_nil_iff.mpr h)]
  rcases values with _ | ⟨first, _ | ⟨second, values⟩⟩ <;> rfl

namespace Context

variable {context : Context}

/-- The call gives the texts of its arguments as one, and their first error as its own. -/
theorem eval_joining (h : context.registry.function? "concat" = some concat)
    {args : List Argument} (hargs : Argument.Positional args) :
    context.eval (.joining args) = context.joined args >>= fun text => .ok (.string text) := by
  rw [eval_function (Registry.resolve?_of_function h _), arguments, joined_eq, bind_assoc,
    bind_assoc]
  refine bind_congr fun values => ?_
  have hjoin : concat (.collect (args.map Argument.name) values) =
      .ok (.string (String.join (values.map Value.display))) := by
    rw [concat, Arguments.values_collect_of_positional hargs]
  exact congrArg (Except.mapError (.functionFailed "concat")) hjoin

theorem joined_joining (h : context.registry.function? "concat" = some concat)
    {args : List Argument} (hargs : Argument.Positional args) :
    context.joined [.value none (.joining args)] = context.joined args := by
  rw [joined_singleton, Argument.expr, eval_joining h hargs]
  cases context.joined args <;> rfl

def displays (args : List Argument) : List Node :=
  args.map fun arg => .display arg.expr

theorem evaluateNodes_displays (expand : List Node → Action String) (context : Context)
    (args : List Argument) (out : String) :
    (evaluateNodes .text expand (displays args) context out).result =
        (context.joined args).map (fun _ => ()) ∧
      ∀ text, context.joined args = .ok text →
        evaluateNodes .text expand (displays args) context out =
          ⟨.ok (), context, out ++ text⟩ := by
  induction args generalizing out with
  | nil =>
    refine ⟨rfl, ?_⟩
    rintro text ⟨⟩
    exact congrArg (Outcome.mk _ context) String.append_empty.symm
  | cons arg args ih =>
    have hnodes : evaluateNodes .text expand (displays (arg :: args)) =
        (evaluateNode .text expand (.display arg.expr)).andThen
          (evaluateNodes .text expand (displays args)) := rfl
    rw [hnodes, joined]
    cases hvalue : context.eval arg.expr with
    | error error =>
      have hfails : evaluateNode .text expand (.display arg.expr) context out =
          ⟨.error error, context, out⟩ := by
        rw [evaluateNode, Action.withValue, hvalue]
        rfl
      rw [Action.andThen, hfails]
      exact ⟨rfl, nofun⟩
    | ok value =>
      have hwrites : evaluateNode .text expand (.display arg.expr) context out =
          ⟨.ok (), context, out ++ value.display⟩ := by
        rw [evaluateNode, Action.withValue, hvalue]
        rfl
      rw [Action.andThen_of_ok hwrites]
      obtain ⟨hresult, hoks⟩ := ih (out ++ value.display)
      cases hrest : context.joined args with
      | error error =>
        rw [hrest] at hresult
        exact ⟨hresult, nofun⟩
      | ok rest =>
        rw [hrest] at hresult
        refine ⟨hresult, ?_⟩
        rintro text ⟨⟩
        rw [hoks rest hrest, String.append_assoc]

theorem exists_joined {args : List Argument}
    (h : ∀ arg ∈ args, ∃ value, context.eval arg.expr = .ok value) :
    ∃ text, context.joined args = .ok text := by
  induction args with
  | nil => exact ⟨"", rfl⟩
  | cons arg args ih =>
    obtain ⟨⟨value, hvalue⟩, hargs⟩ := List.forall_mem_cons.mp h
    obtain ⟨text, htext⟩ := ih hargs
    exact ⟨value.display ++ text, by rw [joined, hvalue, htext]; rfl⟩

end Context

mutual

/-- The arguments that stand for an expression once all calls of the function that joins are written
out as their arguments. -/
def Expr.parts : Expr → List Argument
  | .function name args =>
    if name = "concat" ∧ args.all (·.name.isNone) then Argument.partsAll args
    else [.value none (.function name args)]
  | .content text => [.value none (.content text)]
  | .var name => [.value none (.var name)]
  | .selector base accessor => [.value none (.selector base accessor)]
  | .filter name input => [.value none (.filter name input)]

def Argument.parts : Argument → List Argument
  | .value none expr => Expr.parts expr
  | .value (some name) expr => [.value (some name) expr]
  | .literal name text => [.literal name text]

def Argument.partsAll : List Argument → List Argument
  | [] => []
  | arg :: args => Argument.parts arg ++ Argument.partsAll args

end

theorem Argument.positional_iff {args : List Argument} :
    Positional args ↔ args.all (·.name.isNone) = true := by
  simp [Positional]

mutual

theorem Context.joined_expr_parts {context : Context}
    (h : context.registry.function? "concat" = some concat) :
    ∀ expr : Expr, context.joined expr.parts = context.joined [.value none expr]
  | .function name args => by
    rw [Expr.parts]
    split
    · next hjoining =>
      obtain ⟨rfl, hargs⟩ := hjoining
      rw [joined_partsAll h args, joined_joining h (Argument.positional_iff.mpr hargs)]
    · rfl
  | .content _ | .var _ | .selector _ _ | .filter _ _ => rfl

theorem Context.joined_parts {context : Context}
    (h : context.registry.function? "concat" = some concat) :
    ∀ arg : Argument, context.joined arg.parts = context.joined [arg]
  | .value none expr => joined_expr_parts h expr
  | .value (some _) _ | .literal _ _ => rfl

theorem Context.joined_partsAll {context : Context}
    (h : context.registry.function? "concat" = some concat) :
    ∀ args : List Argument, context.joined (Argument.partsAll args) = context.joined args
  | [] => rfl
  | arg :: args => by
    rw [Argument.partsAll, joined_append, joined_parts h arg, joined_partsAll h args,
      ← joined_append, List.singleton_append]

end

mutual

theorem Expr.positional_parts : ∀ expr : Expr, Argument.Positional expr.parts
  | .function name args => by
    rw [Expr.parts]
    split
    · next hjoining =>
      exact Argument.positional_partsAll args (Argument.positional_iff.mpr hjoining.2)
    · exact List.forall_mem_singleton.mpr rfl
  | .content _ | .var _ | .selector _ _ | .filter _ _ => List.forall_mem_singleton.mpr rfl

theorem Argument.positional_parts :
    ∀ arg : Argument, arg.name = none → Argument.Positional arg.parts
  | .value none expr, _ => expr.positional_parts
  | .literal none _, _ => List.forall_mem_singleton.mpr rfl

theorem Argument.positional_partsAll :
    ∀ args : List Argument, Argument.Positional args → Argument.Positional (Argument.partsAll args)
  | [], _ => nofun
  | arg :: args, h => by
    obtain ⟨harg, hargs⟩ := List.forall_mem_cons.mp h
    exact List.forall_mem_append.mpr
      ⟨Argument.positional_parts arg harg, Argument.positional_partsAll args hargs⟩

end

namespace Context

variable {context : Context}

theorem eval_joining_congr (h : context.registry.function? "concat" = some concat)
    {args others : List Argument} (hargs : Argument.Positional args)
    (hothers : Argument.Positional others) (hjoined : context.joined args = context.joined others) :
    context.eval (.joining args) = context.eval (.joining others) := by
  rw [eval_joining h hargs, eval_joining h hothers, hjoined]

/-- The display of a call writes the texts of its arguments at once. -/
theorem evaluateNode_display_joining (h : context.registry.function? "concat" = some concat)
    {args : List Argument} (hargs : Argument.Positional args)
    (expand : List Node → Action String) (out : String) :
    evaluateNode .text expand (.display (.joining args)) context out =
      match context.joined args with
      | .ok text => ⟨.ok (), context, out ++ text⟩
      | .error error => ⟨.error error, context, out⟩ := by
  rw [evaluateNode, Action.withValue, eval_joining h hargs]
  cases context.joined args <;> rfl

/-- A call of the builtin that joins, with arguments without names, displays as they do one after
another: with the same text if all of them have values, and with the first of their errors
otherwise. Calls among its arguments may be written out, one of them or all, however deep. -/
theorem display_joining {registry : Registry}
    (hregistry : context.registry = registry.addBuiltins) :
    (∀ args, Argument.Positional args → ∀ out,
      let called := evaluate .text (.display (.joining args)) context out
      let shown := evaluate .text (.source (displays args)) context out
      called.result = shown.result ∧
        ((∀ arg ∈ args, ∃ value, context.eval arg.expr = .ok value) →
          called.result = .ok () ∧ called = shown)) ∧
    (∀ front inner back, Argument.Positional front → Argument.Positional inner →
      Argument.Positional back →
        context.eval (.joining (front ++ .value none (.joining inner) :: back)) =
          context.eval (.joining (front ++ inner ++ back))) ∧
    ∀ args, Argument.Positional args →
      context.eval (.joining args) = context.eval (.joining (Argument.partsAll args)) := by
  have h : context.registry.function? "concat" = some concat := by
    rw [hregistry, registry.function?_addBuiltins]
  refine ⟨fun args hargs out => ?_, fun front inner back hfront hinner hback => ?_,
    fun args hargs => ?_⟩
  · obtain ⟨expand, hexpand⟩ := evaluateWithin_eq_evaluateNodes Sink.text context.room
    obtain ⟨hresult, hoks⟩ := evaluateNodes_displays expand context args out
    have hcalled : evaluate .text (.display (.joining args)) context out = _ :=
      (congrFun₂ ((hexpand _).trans (evaluateNodes_singleton _ _ _)) context out).trans
        (evaluateNode_display_joining h hargs expand out)
    have hshown : evaluate .text (.source (displays args)) context out =
        evaluateNodes .text expand (displays args) context out :=
      congrFun₂ ((hexpand _).trans (evaluateNodes_singleton _ _ _)) context out
    simp only [hcalled, hshown]
    refine ⟨?_, fun hvalues => ?_⟩
    · rw [hresult]
      cases context.joined args <;> rfl
    · obtain ⟨text, htext⟩ := exists_joined hvalues
      rw [hoks text htext, htext]
      exact ⟨rfl, rfl⟩
  · have hnested : Argument.Positional (front ++ .value none (.joining inner) :: back) :=
      List.forall_mem_append.mpr ⟨hfront, List.forall_mem_cons.mpr ⟨rfl, hback⟩⟩
    have hflat : Argument.Positional (front ++ inner ++ back) :=
      List.forall_mem_append.mpr ⟨List.forall_mem_append.mpr ⟨hfront, hinner⟩, hback⟩
    refine eval_joining_congr h hnested hflat ?_
    rw [← List.singleton_append, ← List.append_assoc, joined_append, joined_append,
      joined_joining h hinner, ← joined_append, ← joined_append]
  · exact eval_joining_congr h hargs (Argument.positional_partsAll args hargs)
      (joined_partsAll h args).symm

/-- A call inside another has an empty call as its last argument. -/
theorem display_joining_nested :
    let builtins := ({} : Registry).addBuiltins
    let context : Context := { shoutContext with registry := builtins }
    let nothing : Argument := .value none (.joining [])
    let inner : List Argument := [.value none (.var "a"), .literal none "-", nothing]
    let args : List Argument := [.literal none "<", .value none (.joining inner)]
    (evaluate .text (.display (.joining args)) context "").sink = "<Hi-" ∧
      evaluate .text (.display (.joining args)) context "" =
        evaluate .text (.source (displays args)) context "" ∧
      context.eval (.joining args) =
        context.eval (.joining [.literal none "<", .value none (.var "a"), .literal none "-"]) := by
  intro builtins context nothing inner args
  obtain ⟨hdisplay, -, hparts⟩ := @display_joining context {} rfl
  have hargs : Argument.Positional args := Argument.positional_iff.mpr rfl
  obtain ⟨hresult, hsame⟩ := hdisplay args hargs ""
  have hvalues : ∀ arg ∈ args, ∃ value, context.eval arg.expr = .ok value := by
    refine List.forall_mem_cons.mpr ⟨⟨_, rfl⟩, List.forall_mem_singleton.mpr ⟨.string "Hi-", rfl⟩⟩
  exact ⟨rfl, (hsame hvalues).2, hparts args hargs⟩

end Context

end TemplateEngine
