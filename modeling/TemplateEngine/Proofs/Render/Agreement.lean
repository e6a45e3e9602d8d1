import TemplateEngine.Proofs.Render.Failures
import TemplateEngine.Proofs.Render.Keeping

/-! # Evaluation that does not run out

Two actions agree in some contexts if they do the same there and do not report that includes and
overrides never end. Only an include or an override can make such a report. -/

namespace TemplateEngine

/-- The errors that only an include or an override ends in. -/
inductive RenderError.OfNesting : RenderError → Prop
  | circularInclude (chain : List String) : OfNesting (.circularInclude chain)
  | recursiveYield (chain : List String) : OfNesting (.recursiveYield chain)
  | includeDepthExceeded (limit : Nat) : OfNesting (.includeDepthExceeded limit)
  | endless : OfNesting .endless

theorem RenderError.OfNesting.not_ofValue {error : RenderError} (h : error.OfNesting)
    {selects calls : Prop} : ¬error.OfValue selects calls := by
  intro hvalue
  cases h <;> cases hvalue

theorem Value.items_ne_error {error : RenderError} (h : error.OfNesting) (value : Value)
    (item : String) : value.items item ≠ .error error := by
  unfold items
  split
  · exact nofun
  · rintro ⟨⟩
    cases h

namespace Context

theorem eval_ne_error {error : RenderError} (h : error.OfNesting) (context : Context)
    (expr : Expr) : context.eval expr ≠ .error error :=
  fun heval => h.not_ofValue (eval_ofValue heval)

theorem enterInclude_ne_endless (context : Context) (name : String) :
    context.enterInclude name ≠ .error .endless := by
  unfold enterInclude
  split_ifs <;> exact nofun

theorem enterYield_ne_endless (context : Context) (name : String) :
    context.enterYield name ≠ .error .endless := by
  unfold enterYield
  split_ifs <;> exact nofun

end Context

/-- The property does not depend on assignments and frames. -/
def Context.IsLocal (Here : Context → Prop) : Prop :=
  ∀ context assigned frames, Here context → Here { context with assigned, frames }

/-- An include of some template or the override of a yield leads from one context to the other. -/
def Context.Enters (context inner : Context) : Prop :=
  ∃ name, context.enterInclude name = .ok inner ∨
    (∃ nodes, context.block? name = some nodes) ∧ context.enterYield name = .ok inner

namespace Action

variable {σ : Type}

/-- Where the property holds, both actions do the same, which keeps the context but for assignments
and does not run out. -/
structure Agrees (Here : Context → Prop) (action action' : Action σ) : Prop where
  keeps : action.Keeps
  eq : ∀ {context : Context} (out : σ), Here context → action context out = action' context out
  ne_endless : ∀ {context : Context} (out : σ), Here context →
    (action context out).result ≠ .error .endless

/-- Both actions do the same for nodes in every include and override that is entered where the
property holds. -/
structure AgreesInside (Here : Context → Prop) (expand expand' : List Node → Action σ) : Prop where
  keeps : ∀ nodes, (expand nodes).Keeps
  eq : ∀ {context inner : Context} (nodes : List Node) (out : σ), Here context →
    context.Enters inner → expand nodes inner out = expand' nodes inner out
  ne_endless : ∀ {context inner : Context} (nodes : List Node) (out : σ), Here context →
    context.Enters inner → (expand nodes inner out).result ≠ .error .endless

namespace Agrees

variable {Here : Context → Prop}

theorem of_eq {action action' : Action σ} (hkeeps : action.Keeps)
    (h : ∀ context out, Here context → action context out = action' context out ∧
      (action' context out).result ≠ .error .endless) : Agrees Here action action' where
  keeps := hkeeps
  eq out hhere := (h _ out hhere).1
  ne_endless out hhere := (h _ out hhere).1 ▸ (h _ out hhere).2

theorem skip : Agrees Here (skip : Action σ) skip where
  keeps := .skip
  eq _ _ := rfl
  ne_endless _ _ := nofun

theorem fail {error : RenderError} (h : error ≠ .endless) :
    Agrees Here (fail error : Action σ) (fail error) where
  keeps := .fail error
  eq _ _ := rfl
  ne_endless _ _ heq := h (Except.error.inj heq)

theorem write (put : σ → Except String Unit × σ) : Agrees Here (write put) (write put) where
  keeps := .write put
  eq _ _ := rfl
  ne_endless _ _ := mapError_ne_error fun _ => nofun

theorem assignValue (name : String) (value : Value) :
    Agrees Here (assignValue name value : Action σ) (assignValue name value) where
  keeps := .assignValue name value
  eq _ _ := rfl
  ne_endless _ _ := nofun

theorem andThen {first first' second second' : Action σ} (hlocal : Context.IsLocal Here)
    (hfirst : Agrees Here first first') (hsecond : Agrees Here second second') :
    Agrees Here (first.andThen second) (first'.andThen second') where
  keeps := hfirst.keeps.andThen hsecond.keeps
  eq {context} out h := by
    have hafter : Here (first context out).context := by
      rw [hfirst.keeps]
      exact hlocal context _ _ h
    unfold Action.andThen
    rw [← hfirst.eq out h]
    dsimp only
    split
    · exact hsecond.eq _ hafter
    · rfl
  ne_endless {context} out h := by
    have hafter : Here (first context out).context := by
      rw [hfirst.keeps]
      exact hlocal context _ _ h
    unfold Action.andThen
    dsimp only
    split
    · exact hsecond.ne_endless _ hafter
    · exact hfirst.ne_endless out h

theorem withValue {α : Type} {compute : Context → Except RenderError α}
    {next next' : α → Action σ} (hcompute : ∀ context, compute context ≠ .error .endless)
    (h : ∀ value, Agrees Here (next value) (next' value)) :
    Agrees Here (withValue compute next) (withValue compute next') where
  keeps := .withValue fun value => (h value).keeps
  eq {context} out hhere := by
    unfold Action.withValue
    split
    · exact (h _).eq out hhere
    · rfl
  ne_endless {context} out hhere := by
    unfold Action.withValue
    split
    · exact (h _).ne_endless out hhere
    · next error heq =>
      exact fun herror =>
        hcompute context (heq.trans (congrArg Except.error (Except.error.inj herror)))

/-- The actions inside have to agree only in the contexts that are entered. -/
theorem within {enter : Context → Except RenderError Context} {leave : Context → Context}
    {action action' : Action σ} (hkeeps : (within enter leave action).Keeps)
    (henter : ∀ context, enter context ≠ .error .endless)
    (h : ∀ context inner out, Here context → enter context = .ok inner →
      action inner out = action' inner out ∧ (action inner out).result ≠ .error .endless) :
    Agrees Here (within enter leave action) (within enter leave action') where
  keeps := hkeeps
  eq {context} out hhere := by
    unfold Action.within
    split
    · next inner heq => rw [(h context inner out hhere heq).1]
    · rfl
  ne_endless {context} out hhere := by
    unfold Action.within
    split
    · next inner heq => exact (h context inner out hhere heq).2
    · next error heq =>
      exact fun herror =>
        henter context (heq.trans (congrArg Except.error (Except.error.inj herror)))

theorem inFrame (hlocal : Context.IsLocal Here) (frame : Dict Value) {action action' : Action σ}
    (h : Agrees Here action action') :
    Agrees Here (inFrame frame action) (inFrame frame action') := by
  refine within (.inFrame frame h.keeps) (fun _ => nofun) fun context inner out hhere henter => ?_
  obtain rfl := Except.ok.inj henter
  have hframe := hlocal context context.assigned (frame :: context.frames) hhere
  exact ⟨h.eq out hframe, h.ne_endless out hframe⟩

theorem display (sink : Sink σ) (expr : Expr) :
    Agrees Here (display sink expr) (display sink expr) :=
  withValue (fun context => context.eval_ne_error .endless expr) fun _ => write _

theorem loop (hlocal : Context.IsLocal Here) (item : String) (iterable : Expr)
    {body body' : Action σ} (h : Agrees Here body body') :
    Agrees Here (loop item iterable body) (loop item iterable body') :=
  withValue (fun context => bind_ne_error (context.eval_ne_error .endless iterable)
    fun value => value.items_ne_error .endless item) fun values =>
      forEach_related _ skip (andThen hlocal) item values fun frame => inFrame hlocal frame h

theorem assign (name : String) (value : Expr) :
    Agrees Here (assign name value : Action σ) (assign name value) :=
  withValue (fun context => context.eval_ne_error .endless value) fun value =>
    assignValue name value

theorem branch (test : Expr) {consequence consequence' alternative alternative' : Action σ}
    (hconsequence : Agrees Here consequence consequence')
    (halternative : Agrees Here alternative alternative') :
    Agrees Here (branch test consequence alternative) (branch test consequence' alternative') :=
  withValue (fun context => context.eval_ne_error .endless test) fun value => by
    split <;> assumption

section

variable {expand expand' : List Node → Action σ}

theorem includeTemplate (hexpand : AgreesInside Here expand expand') (name : String) :
    Agrees Here (includeTemplate expand name) (includeTemplate expand' name) := by
  have hfind : ∀ context : Context, ((context.store.find? name).elim
      (.error (.unknownTemplate name)) .ok : Except RenderError Template) ≠ .error .endless := by
    intro context
    cases context.store.find? name <;> exact nofun
  refine withValue hfind fun template => within (.within ?_ (hexpand.keeps _))
    (fun context => context.enterInclude_ne_endless name) fun context inner out hhere henter =>
      ⟨hexpand.eq _ out hhere ⟨name, .inl henter⟩,
        hexpand.ne_endless _ out hhere ⟨name, .inl henter⟩⟩
  intro context inner assigned henter
  obtain ⟨-, -, rfl⟩ := Context.enterInclude_eq_ok henter
  rfl

theorem expandYield (hexpand : AgreesInside Here expand expand') (name : String)
    {default default' : Action σ} (hdefault : Agrees Here default default') :
    Agrees Here (expandYield expand name default) (expandYield expand' name default') := by
  have hoverride : ∀ nodes, Agrees
      (fun context => Here context ∧ context.block? name = some nodes)
      (Action.within (·.enterYield name) Context.leaveYield (expand nodes))
      (Action.within (·.enterYield name) Context.leaveYield (expand' nodes)) := by
    refine fun nodes => within (.within ?_ (hexpand.keeps _))
      (fun context => context.enterYield_ne_endless name)
      fun context inner out hhere henter =>
        have henters : context.Enters inner := ⟨name, .inr ⟨⟨nodes, hhere.2⟩, henter⟩⟩
        ⟨hexpand.eq _ out hhere.1 henters, hexpand.ne_endless _ out hhere.1 henters⟩
    intro context inner assigned henter
    obtain ⟨-, rfl⟩ := Context.enterYield_eq_ok henter
    rfl
  refine ⟨.expandYield hexpand.keeps name hdefault.keeps, fun {context} out hhere => ?_,
    fun {context} out hhere => ?_⟩
  · unfold Action.expandYield
    split
    · next nodes heq => exact (hoverride nodes).eq out ⟨hhere, heq⟩
    · exact hdefault.eq out hhere
  · unfold Action.expandYield
    split
    · next nodes heq => exact (hoverride nodes).ne_endless out ⟨hhere, heq⟩
    · exact hdefault.ne_endless out hhere

theorem compositional (sink : Sink σ) (hlocal : Context.IsLocal Here)
    (hexpand : AgreesInside Here expand expand') :
    Compositional {} sink sink expand expand' (Agrees Here) where
  skip := skip
  andThen := andThen hlocal
  content _ := write _
  display _ := display sink _
  inclusion _ := includeTemplate hexpand _
  yield _ hdefault := expandYield hexpand _ hdefault
  loop item _ hbody := loop hlocal item _ hbody
  assign name _ := assign name _
  branch _ hconsequence halternative := branch _ hconsequence halternative

end

end Agrees

end Action

/-- Evaluation agrees where the expansions of all includes and overrides that can be entered do. -/
theorem evaluateNodes_agrees {σ : Type} (sink : Sink σ) {Here : Context → Prop}
    {expand expand' : List Node → Action σ} (hlocal : Context.IsLocal Here)
    (hexpand : Action.AgreesInside Here expand expand') (nodes : List Node) :
    Action.Agrees Here (evaluateNodes sink expand nodes) (evaluateNodes sink expand' nodes) :=
  (Action.Agrees.compositional sink hlocal hexpand).evaluateNodes
    (Node.allInScope_all nodes)

end TemplateEngine
