import Mathlib.Tactic.SplitIfs
import TemplateEngine.Proofs.Render.Compositional

/-! # What evaluation leaves as it was

However an action ends, it has changed nothing but assignments: frames, includes and overrides are
left as often as they were entered. -/

namespace TemplateEngine

namespace Context

variable {context inner : Context} {name : String}

theorem enterInclude_eq_ok (h : context.enterInclude name = .ok inner) :
    name ∉ context.includeChain ∧
      context.includeChain.length < context.store.maxIncludeDepth ∧
      inner = { context with included := name :: context.included } := by
  unfold enterInclude at h
  split_ifs at h with hmem hdepth
  exact ⟨hmem, by omega, (Except.ok.inj h).symm⟩

theorem enterYield_eq_ok (h : context.enterYield name = .ok inner) :
    name ∉ context.yields ∧ inner = { context with yields := name :: context.yields } := by
  unfold enterYield at h
  split_ifs at h with hmem
  exact ⟨hmem, (Except.ok.inj h).symm⟩

end Context

namespace Action

variable {σ : Type}

/-- The context is left as it was but for assignments. -/
def Keeps (action : Action σ) : Prop :=
  ∀ context out, (action context out).context =
    { context with assigned := (action context out).context.assigned }

namespace Keeps

theorem skip : (skip : Action σ).Keeps := fun _ _ => rfl

theorem fail (error : RenderError) : (fail error : Action σ).Keeps := fun _ _ => rfl

theorem write (put : σ → Except String Unit × σ) : (write put).Keeps := fun _ _ => rfl

theorem assignValue (name : String) (value : Value) : (assignValue name value : Action σ).Keeps :=
  fun _ _ => rfl

theorem andThen {first second : Action σ} (hfirst : first.Keeps) (hsecond : second.Keeps) :
    (first.andThen second).Keeps := by
  intro context out
  have hafter := hfirst context out
  unfold Action.andThen
  dsimp only
  split
  · rw [hsecond, hafter]
  · exact hafter

theorem withValue {α : Type} {compute : Context → Except RenderError α} {next : α → Action σ}
    (h : ∀ value, (next value).Keeps) : (withValue compute next).Keeps := by
  intro context out
  unfold Action.withValue
  split
  · exact h _ context out
  · rfl

/-- A change of the context that is taken back leaves no trace. -/
theorem within {enter : Context → Except RenderError Context} {leave : Context → Context}
    {action : Action σ}
    (hleave : ∀ context inner assigned, enter context = .ok inner →
      leave { inner with assigned } = { context with assigned })
    (haction : action.Keeps) : (within enter leave action).Keeps := by
  intro context out
  unfold Action.within
  split
  · next inner henter =>
    dsimp only
    rw [haction, hleave context inner _ henter]
  · rfl

theorem inFrame (frame : Dict Value) {action : Action σ} (h : action.Keeps) :
    (inFrame frame action).Keeps := by
  refine within (fun context inner assigned henter => ?_) h
  obtain rfl := Except.ok.inj henter
  rfl

theorem forEach (item : String) (values : List Value) {body : Action σ} (h : body.Keeps) :
    (forEach item values body).Keeps :=
  @forEach_related σ σ (fun action _ => action.Keeps) skip andThen item values body body
    fun frame => inFrame frame h

theorem includeTemplate {expand : List Node → Action σ} (h : ∀ nodes, (expand nodes).Keeps)
    (name : String) : (includeTemplate expand name).Keeps := by
  refine withValue fun template => within (fun context inner assigned henter => ?_) (h _)
  obtain ⟨-, -, rfl⟩ := Context.enterInclude_eq_ok henter
  rfl

theorem expandYield {expand : List Node → Action σ} (h : ∀ nodes, (expand nodes).Keeps)
    (name : String) {default : Action σ} (hdefault : default.Keeps) :
    (expandYield expand name default).Keeps := by
  intro context out
  unfold Action.expandYield
  split
  · refine within (fun context inner assigned henter => ?_) (h _) context out
    obtain ⟨-, rfl⟩ := Context.enterYield_eq_ok henter
    rfl
  · exact hdefault context out

theorem compositional {expand : List Node → Action σ} (sink : Sink σ)
    (h : ∀ nodes, (expand nodes).Keeps) :
    Compositional {} sink sink expand expand fun action _ => action.Keeps where
  skip := skip
  andThen := andThen
  content _ := write _
  display _ := withValue fun _ => write _
  inclusion _ := includeTemplate h _
  yield _ hdefault := expandYield h _ hdefault
  loop item _ hbody := withValue fun values => forEach item values hbody
  assign name _ := withValue fun value => assignValue name value
  branch _ hconsequence halternative :=
    withValue fun value => by split <;> assumption

end Keeps

end Action

section

variable {σ : Type} (sink : Sink σ)

theorem evaluateNodes_keeps {expand : List Node → Action σ} (h : ∀ nodes, (expand nodes).Keeps)
    (nodes : List Node) : (evaluateNodes sink expand nodes).Keeps :=
  (Action.Keeps.compositional sink h).evaluateNodes (Node.allInScope_all nodes)

theorem evaluateWithin_keeps (depth : Nat) (nodes : List Node) :
    (evaluateWithin sink depth nodes).Keeps := by
  induction depth generalizing nodes with
  | zero => exact evaluateNodes_keeps sink (fun _ => .fail .endless) nodes
  | succ depth ih => exact evaluateNodes_keeps sink ih nodes

end

end TemplateEngine
