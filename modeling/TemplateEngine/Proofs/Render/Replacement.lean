import Mathlib.Data.Option.Basic
import TemplateEngine.Proofs.Render.Related
import TemplateEngine.Proofs.Render.Static
import TemplateEngine.Proofs.Render.Termination

/-! # Trees in place of others

Nodes that do the same wherever they stand can take each other's place, in every tree of a store and
in every block at once. No render tells the two stores apart. -/

namespace TemplateEngine

/-- The nodes do the same in every place, whatever includes and overrides do. -/
def Node.SameActions (nodes nodes' : List Node) : Prop :=
  ∀ {σ : Type} (sink : Sink σ) (expand : List Node → Action σ),
    evaluateNodes sink expand nodes = evaluateNodes sink expand nodes'

/-- Under each name there are blocks in both maps, whose contents do the same, or in none. -/
structure BlockMap.Replaced (blocks blocks' : BlockMap) : Prop where
  count : blocks.length = blocks'.length
  find? : ∀ name, Option.Rel Node.SameActions (Dict.find? blocks name) (Dict.find? blocks' name)

/-- Under each name there are templates in both stores, whose trees do the same, or in none. -/
structure Store.Replaced (store store' : Store) : Prop where
  limit : store.maxIncludeDepth = store'.maxIncludeDepth
  find? : ∀ name, Option.Rel (fun template template' =>
    Node.SameActions [template.root] [template'.root]) (store.find? name) (store'.find? name)

/-- The contexts differ in nothing but templates and blocks, which do the same. -/
def Context.Replaced (context context' : Context) : Prop :=
  ∃ store' blocks', context.store.Replaced store' ∧ context.blocks.Replaced blocks' ∧
    context' = { context with store := store', blocks := blocks' }

namespace Context.Replaced

variable {context context' : Context}

theorem congruence : Congruence {} Replaced where
  eval := by
    rintro context _ expr ⟨store', blocks', -, -, rfl⟩ -
    exact (context.eval_moveTo { context with store := store', blocks := blocks' } expr).symm
  assign := by
    rintro context _ ⟨store', blocks', hstore, hblocks, rfl⟩ name value
    exact ⟨store', blocks', hstore, hblocks, rfl⟩
  pushFrame := by
    rintro context _ ⟨store', blocks', hstore, hblocks, rfl⟩ frame
    exact ⟨store', blocks', hstore, hblocks, rfl⟩
  popFrame := by
    rintro context _ ⟨store', blocks', hstore, hblocks, rfl⟩
    exact ⟨store', blocks', hstore, hblocks, rfl⟩

theorem room (h : context.Replaced context') : context.room = context'.room := by
  obtain ⟨store', blocks', hstore, hblocks, rfl⟩ := h
  rw [Context.room, Context.room, hstore.limit, hblocks.count]
  rfl

theorem enterInclude (h : context.Replaced context') (name : String) :
    EntersRelated Replaced (context.enterInclude name) (context'.enterInclude name) := by
  obtain ⟨store', blocks', hstore, hblocks, rfl⟩ := h
  have hchain : includeChain { context with store := store', blocks := blocks' } =
      context.includeChain := rfl
  unfold Context.enterInclude
  rw [hchain, hstore.limit]
  split_ifs
  · exact .inl ⟨_, rfl, rfl⟩
  · exact .inl ⟨_, rfl, rfl⟩
  · exact .inr ⟨_, _, rfl, rfl, store', blocks', hstore, hblocks, rfl⟩

theorem leaveInclude (h : context.Replaced context') :
    context.leaveInclude.Replaced context'.leaveInclude := by
  obtain ⟨store', blocks', hstore, hblocks, rfl⟩ := h
  exact ⟨store', blocks', hstore, hblocks, rfl⟩

theorem enterYield (h : context.Replaced context') (name : String) :
    EntersRelated Replaced (context.enterYield name) (context'.enterYield name) := by
  obtain ⟨store', blocks', hstore, hblocks, rfl⟩ := h
  unfold Context.enterYield
  dsimp only
  split_ifs
  · exact .inl ⟨_, rfl, rfl⟩
  · exact .inr ⟨_, _, rfl, rfl, store', blocks', hstore, hblocks, rfl⟩

theorem leaveYield (h : context.Replaced context') :
    context.leaveYield.Replaced context'.leaveYield := by
  obtain ⟨store', blocks', hstore, hblocks, rfl⟩ := h
  exact ⟨store', blocks', hstore, hblocks, rfl⟩

theorem template (h : context.Replaced context') (name : String) :
    Option.Rel (fun template template' => Node.SameActions [template.root] [template'.root])
      (context.store.find? name) (context'.store.find? name) := by
  obtain ⟨store', blocks', hstore, -, rfl⟩ := h
  exact hstore.find? name

theorem block? (h : context.Replaced context') (name : String) :
    Option.Rel Node.SameActions (context.block? name) (context'.block? name) := by
  obtain ⟨store', blocks', -, hblocks, rfl⟩ := h
  exact hblocks.find? name

end Context.Replaced

section

open TemplateEngine.Action (Respects)

variable {σ : Type} {expand expand' : List Node → Action σ}

theorem Action.includeTemplate_replaced
    (hexpand : ∀ {nodes nodes' : List Node}, Node.SameActions nodes nodes' →
      Respects Context.Replaced (expand nodes) (expand' nodes')) (name : String) :
    Respects Context.Replaced (includeTemplate expand name) (includeTemplate expand' name) := by
  intro context context' out h
  have htemplate := h.template name
  unfold includeTemplate withValue
  dsimp only
  generalize context.store.find? name = found at htemplate ⊢
  generalize context'.store.find? name = found' at htemplate ⊢
  cases htemplate with
  | none => exact ⟨rfl, rfl, h⟩
  | some hroots =>
    exact Respects.within (fun hcontext => hcontext.enterInclude name)
      (fun hcontext => hcontext.leaveInclude) (hexpand hroots) context context' out h

theorem Action.expandYield_replaced
    (hexpand : ∀ {nodes nodes' : List Node}, Node.SameActions nodes nodes' →
      Respects Context.Replaced (expand nodes) (expand' nodes')) (name : String)
    {default default' : Action σ} (hdefault : Respects Context.Replaced default default') :
    Respects Context.Replaced (expandYield expand name default)
      (expandYield expand' name default') := by
  intro context context' out h
  have hblock := h.block? name
  unfold expandYield
  generalize context.block? name = found at hblock ⊢
  generalize context'.block? name = found' at hblock ⊢
  cases hblock with
  | none => exact hdefault context context' out h
  | some hnodes =>
    exact Respects.within (fun hcontext => hcontext.enterYield name)
      (fun hcontext => hcontext.leaveYield) (hexpand hnodes) context context' out h

variable (sink : Sink σ)

theorem evaluateNodes_replaced
    (hexpand : ∀ {nodes nodes' : List Node}, Node.SameActions nodes nodes' →
      Respects Context.Replaced (expand nodes) (expand' nodes'))
    {nodes nodes' : List Node} (h : Node.SameActions nodes nodes') :
    Respects Context.Replaced (evaluateNodes sink expand nodes)
      (evaluateNodes sink expand' nodes') := by
  rw [h sink expand]
  exact (Respects.compositional Context.Replaced.congruence sink
    (fun name _ => Action.includeTemplate_replaced hexpand name)
    (Action.expandYield_replaced hexpand)).evaluateNodes (Node.allInScope_all nodes')

theorem evaluateWithin_replaced (depth : Nat) {nodes nodes' : List Node}
    (h : Node.SameActions nodes nodes') :
    Respects Context.Replaced (evaluateWithin sink depth nodes)
      (evaluateWithin sink depth nodes') := by
  induction depth generalizing nodes nodes' with
  | zero => exact evaluateNodes_replaced sink (fun _ => .fail .endless) h
  | succ depth ih => exact evaluateNodes_replaced sink ih h

/-- Where templates and blocks do the same, a render does. -/
theorem Store.render_replaced {store store' : Store} (h : store.Replaced store') {name : String}
    (hblocks : ∀ template template', store.find? name = some template →
      store'.find? name = some template' → template.blocks.Replaced template'.blocks)
    (registry : Registry) (data : Dict Value) (out : σ) :
    store.render registry sink name data out = store'.render registry sink name data out := by
  have htemplate := h.find? name
  generalize hfind : store.find? name = found at htemplate
  generalize hfind' : store'.find? name = found' at htemplate
  cases htemplate with
  | none => rw [render, render, hfind, hfind']
  | @some template template' hroots =>
    have hstart : (store.start registry name template data).Replaced
        (store'.start registry name template' data) :=
      ⟨store', template'.blocks, h, hblocks template template' hfind hfind', rfl⟩
    have houtcome := evaluateWithin_replaced sink
      (store.start registry name template data).room hroots _ _ out hstart
    rw [render_of_find?_eq_some _ _ _ _ _ _ hfind, render_of_find?_eq_some _ _ _ _ _ _ hfind',
      evaluateAll, evaluateAll, ← hstart.room, houtcome.result, houtcome.sink]

end

end TemplateEngine
