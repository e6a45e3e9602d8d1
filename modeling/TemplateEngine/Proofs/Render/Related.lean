import TemplateEngine.Proofs.Render.Compositional

/-! # Evaluation in related contexts

A relation between contexts that evaluation cannot look behind is kept by all its actions: they
write the same and end alike, in contexts that are related again. -/

namespace TemplateEngine

namespace Context

/-- Expressions in scope have the same values in both contexts, and assignments and frames leave
them related. -/
structure Congruence (scope : Scope) (Rel : Context → Context → Prop) : Prop where
  eval {context context' : Context} {expr : Expr} (h : Rel context context')
    (hexpr : scope.expr expr) : context.eval expr = context'.eval expr
  assign {context context' : Context} (h : Rel context context') (name : String) (value : Value) :
    Rel (context.assign name value) (context'.assign name value)
  pushFrame {context context' : Context} (h : Rel context context') (frame : Dict Value) :
    Rel (context.pushFrame frame) (context'.pushFrame frame)
  popFrame {context context' : Context} (h : Rel context context') :
    Rel context.popFrame context'.popFrame

/-- Both ways of entering fail alike, or lead to contexts that are related. -/
def EntersRelated (Rel : Context → Context → Prop) (entered entered' : Except RenderError Context) :
    Prop :=
  (∃ error, entered = .error error ∧ entered' = .error error) ∨
    ∃ inner inner', entered = .ok inner ∧ entered' = .ok inner' ∧ Rel inner inner'

end Context

/-- The outcomes are the same but for their contexts, which are related. -/
structure Outcome.Related {σ : Type} (Rel : Context → Context → Prop)
    (outcome outcome' : Outcome σ) : Prop where
  result : outcome.result = outcome'.result
  sink : outcome.sink = outcome'.sink
  context : Rel outcome.context outcome'.context

namespace Action

variable {σ : Type}

/-- The actions do not tell related contexts apart. -/
def Respects (Rel : Context → Context → Prop) (action action' : Action σ) : Prop :=
  ∀ context context' out, Rel context context' →
    (action context out).Related Rel (action' context' out)

namespace Respects

variable {Rel : Context → Context → Prop}

theorem skip : Respects Rel (skip : Action σ) skip := fun _ _ _ h => ⟨rfl, rfl, h⟩

theorem fail (error : RenderError) : Respects Rel (fail error : Action σ) (fail error) :=
  fun _ _ _ h => ⟨rfl, rfl, h⟩

theorem write (put : σ → Except String Unit × σ) : Respects Rel (write put) (write put) :=
  fun _ _ _ h => ⟨rfl, rfl, h⟩

theorem andThen {first first' second second' : Action σ} (hfirst : Respects Rel first first')
    (hsecond : Respects Rel second second') :
    Respects Rel (first.andThen second) (first'.andThen second') := by
  intro context context' out h
  have hafter := hfirst context context' out h
  unfold Action.andThen
  dsimp only
  rw [← hafter.result]
  split
  · rw [← hafter.sink]
    exact hsecond _ _ _ hafter.context
  · exact hafter

theorem withValue {α : Type} {compute : Context → Except RenderError α} {next next' : α → Action σ}
    (hcompute : ∀ {context context' : Context}, Rel context context' →
      compute context = compute context')
    (h : ∀ value, Respects Rel (next value) (next' value)) :
    Respects Rel (withValue compute next) (withValue compute next') := by
  intro context context' out hcontext
  unfold Action.withValue
  rw [← hcompute hcontext]
  split
  · exact h _ context context' out hcontext
  · exact ⟨rfl, rfl, hcontext⟩

theorem within {enter : Context → Except RenderError Context} {leave : Context → Context}
    {action action' : Action σ}
    (henter : ∀ {context context' : Context}, Rel context context' →
      Context.EntersRelated Rel (enter context) (enter context'))
    (hleave : ∀ {context context' : Context}, Rel context context' →
      Rel (leave context) (leave context'))
    (h : Respects Rel action action') :
    Respects Rel (within enter leave action) (within enter leave action') := by
  intro context context' out hcontext
  unfold Action.within
  obtain ⟨error, herror, herror'⟩ | ⟨inner, inner', hinner, hinner', hrel⟩ := henter hcontext
  · rw [herror, herror']
    exact ⟨rfl, rfl, hcontext⟩
  · rw [hinner, hinner']
    have houtcome := h inner inner' out hrel
    exact ⟨houtcome.result, houtcome.sink, hleave houtcome.context⟩

variable {scope : Scope}

theorem inFrame (hrel : Context.Congruence scope Rel) (frame : Dict Value)
    {action action' : Action σ} (h : Respects Rel action action') :
    Respects Rel (inFrame frame action) (inFrame frame action') :=
  within (fun hcontext => .inr ⟨_, _, rfl, rfl, hrel.pushFrame hcontext frame⟩) hrel.popFrame h

theorem display (hrel : Context.Congruence scope Rel) (sink : Sink σ) {expr : Expr}
    (h : scope.expr expr) : Respects Rel (display sink expr) (display sink expr) :=
  withValue (fun hcontext => hrel.eval hcontext h) fun _ => write _

theorem loop (hrel : Context.Congruence scope Rel) (item : String) {iterable : Expr}
    {body body' : Action σ} (hiterable : scope.expr iterable) (hbody : Respects Rel body body') :
    Respects Rel (loop item iterable body) (loop item iterable body') :=
  withValue (fun hcontext => by rw [hrel.eval hcontext hiterable]) fun values =>
    forEach_related _ skip andThen item values fun frame => inFrame hrel frame hbody

theorem assign (hrel : Context.Congruence scope Rel) (name : String) {value : Expr}
    (h : scope.expr value) : Respects Rel (assign name value : Action σ) (assign name value) :=
  withValue (fun hcontext => hrel.eval hcontext h) fun value _ _ _ hcontext =>
    ⟨rfl, rfl, hrel.assign hcontext name value⟩

theorem branch (hrel : Context.Congruence scope Rel) {test : Expr}
    {consequence consequence' alternative alternative' : Action σ} (htest : scope.expr test)
    (hconsequence : Respects Rel consequence consequence')
    (halternative : Respects Rel alternative alternative') :
    Respects Rel (branch test consequence alternative)
      (branch test consequence' alternative') :=
  withValue (fun hcontext => hrel.eval hcontext htest) fun value => by split <;> assumption

theorem compositional (hrel : Context.Congruence scope Rel) (sink : Sink σ)
    {expand expand' : List Node → Action σ}
    (hinclusion : ∀ name, scope.inclusion name →
      Respects Rel (includeTemplate expand name) (includeTemplate expand' name))
    (hyield : ∀ (name : String) {default default' : Action σ}, Respects Rel default default' →
      Respects Rel (expandYield expand name default) (expandYield expand' name default')) :
    Compositional scope sink sink expand expand' (Respects Rel) where
  skip := skip
  andThen := andThen
  content _ := write _
  display := display hrel sink
  inclusion := hinclusion _
  yield _ hdefault := hyield _ hdefault
  loop item hiterable hbody := loop hrel item hiterable hbody
  assign name hvalue := assign hrel name hvalue
  branch := branch hrel

end Respects

end Action

end TemplateEngine
