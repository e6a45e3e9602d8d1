import TemplateEngine.Proofs.Render.Expansion
import TemplateEngine.Proofs.Render.Sequence
import TemplateEngine.Proofs.Render.Termination

/-! # Rendering an expansion

Includes and yields that are resolved while a template is rendered come to the same as those that
are expanded before. An include or an override that is being expanded changes only the place where
its tree is evaluated, and to the static tree that it is expanded to the place makes no
difference. -/

namespace TemplateEngine

/-- The context of a render that has come to this place: the entry's blocks are in force, and these
templates are being included and these overrides expanded. -/
structure Context.At (store : Store) (blocks : BlockMap) (path yields : List String)
    (context : Context) : Prop where
  guarded : context.Guarded
  store : context.store = store
  blocks : context.blocks = blocks
  path : context.included ++ [context.entry] = path
  yields : context.yields = yields

namespace Context.At

variable {store : Store} {blocks : BlockMap} {path yields : List String} {context : Context}
  {name : String}

theorem isLocal : IsLocal (At store blocks path yields) := fun _ _ _ h =>
  ⟨⟨h.guarded.nodup, h.guarded.known⟩, h.store, h.blocks, h.path, h.yields⟩

theorem includeChain_eq (h : context.At store blocks path yields) :
    context.includeChain = path.reverse := by
  rw [← h.path, List.reverse_append]
  rfl

theorem enterInclude (h : context.At store blocks path yields) (hpath : name ∉ path)
    (hdepth : path.length < store.maxIncludeDepth) :
    ∃ inner, context.enterInclude name = .ok inner ∧
      inner = { context with included := name :: context.included } ∧
      inner.At store blocks (name :: path) yields := by
  have hmem : name ∉ context.includeChain := by
    rw [h.includeChain_eq, List.mem_reverse]
    exact hpath
  have hlength : ¬context.store.maxIncludeDepth ≤ context.includeChain.length := by
    rw [h.includeChain_eq, h.store, List.length_reverse]
    omega
  refine ⟨_, ?_, rfl, ⟨h.guarded.nodup, h.guarded.known⟩, h.store, h.blocks, ?_, h.yields⟩
  · rw [Context.enterInclude, if_neg hmem, if_neg hlength]
  · exact congrArg (name :: ·) h.path

theorem enterYield (h : context.At store blocks path yields) {nodes : List Node}
    (hblock : context.block? name = some nodes) (hyields : name ∉ yields) :
    ∃ inner, context.enterYield name = .ok inner ∧
      inner = { context with yields := name :: context.yields } ∧
      inner.At store blocks path (name :: yields) := by
  have hmem : name ∉ context.yields := by
    rw [h.yields]
    exact hyields
  have henter : context.enterYield name =
      .ok { context with yields := name :: context.yields } := by
    rw [Context.enterYield, if_neg hmem]
  refine ⟨_, henter, rfl, (h.guarded.enterYield hblock henter).1, h.store, h.blocks, h.path, ?_⟩
  exact congrArg (name :: ·) h.yields

end Context.At

section

variable {σ : Type} {sink : Sink σ}

/-- An action that is the same in every place may run outside instead of inside. -/
theorem Action.within_eq_of_moves {enter : Context → Except RenderError Context}
    {leave : Context → Context} {action action' : Action σ} {context inner : Context} {out : σ}
    (henter : enter context = .ok inner) (hplace : context.moveTo inner = inner)
    (hleave : ∀ assigned, leave { inner with assigned } = { context with assigned })
    (heq : action inner out = action' inner out) (hmoves : Moves action' action')
    (hkeeps : action'.Keeps) :
    within enter leave action context out = action' context out := by
  have hinner : action' inner out = (action' context out).moveTo inner := by
    rw [← hmoves context inner out, hplace]
  have hcontext := hkeeps context out
  generalize action' context out = outcome at hinner hcontext ⊢
  have hmoved : outcome.context.moveTo inner =
      { inner with assigned := outcome.context.assigned } :=
    (congrArg (·.moveTo inner) hcontext).trans
      (congrArg (fun place : Context => { place with assigned := outcome.context.assigned }) hplace)
  have hleft : leave (outcome.moveTo inner).context = outcome.context :=
    (congrArg leave hmoved).trans ((hleave _).trans hcontext.symm)
  unfold Action.within
  rw [henter]
  dsimp only
  rw [heq, hinner, hleft]
  rfl

/-- Trees elsewhere that agree with a static expansion there are evaluated as the expansion is
here. -/
theorem within_evaluateAll {Inside : Context → Prop} {nodes expanded : List Node}
    (hstatic : Node.AllInScope .static expanded)
    (hnodes : Action.Agrees Inside (evaluateNodes sink (evaluateAll sink) nodes)
      (evaluateNodes sink (evaluateAll sink) expanded))
    {enter : Context → Except RenderError Context} {leave : Context → Context}
    {context inner : Context} (henter : enter context = .ok inner)
    (hplace : context.moveTo inner = inner)
    (hleave : ∀ assigned, leave { inner with assigned } = { context with assigned })
    (hguarded : inner.Guarded) (hinside : Inside inner) (out : σ) :
    Action.within enter leave (evaluateAll sink nodes) context out =
        evaluateNodes sink (evaluateAll sink) expanded context out ∧
      (evaluateNodes sink (evaluateAll sink) expanded context out).result ≠ .error .endless := by
  have hmoves : Action.Moves (evaluateNodes sink (evaluateAll sink) expanded)
      (evaluateNodes sink (evaluateAll sink) expanded) := evaluateNodes_moveTo sink _ _ hstatic
  have hinner := hmoves context inner out
  rw [hplace] at hinner
  have heq : evaluateAll sink nodes inner out =
      evaluateNodes sink (evaluateAll sink) expanded inner out :=
    (isRecursive_evaluateAll sink nodes inner out hguarded).trans (hnodes.eq out hinside)
  have hresult := hnodes.ne_endless out hinside
  rw [hnodes.eq out hinside, hinner] at hresult
  exact ⟨Action.within_eq_of_moves henter hplace hleave heq hmoves
    (evaluateNodes_keeps sink (evaluateAll_keeps sink) expanded), hresult⟩

variable {store : Store} {blocks : BlockMap} {path yields : List String} {name : String}

theorem agrees_inclusion {template : Template} {expanded : List Node}
    (hfind : store.find? name = some template) (hpath : name ∉ path)
    (hdepth : path.length < store.maxIncludeDepth) (hstatic : Node.AllInScope .static expanded)
    (hroot : Action.Agrees (Context.At store blocks (name :: path) yields)
      (evaluateNode sink (evaluateAll sink) template.root)
      (evaluateNodes sink (evaluateAll sink) expanded)) :
    Action.Agrees (Context.At store blocks path yields)
      (Action.includeTemplate (evaluateAll sink) name)
      (evaluateNodes sink (evaluateAll sink) expanded) := by
  rw [← evaluateNodes_singleton] at hroot
  refine .of_eq (.includeTemplate (evaluateAll_keeps sink) name) fun context out hat => ?_
  have htemplate : context.store.find? name = some template := by rw [hat.store, hfind]
  obtain ⟨inner, henter, rfl, hinner⟩ := hat.enterInclude hpath hdepth
  unfold Action.includeTemplate Action.withValue
  dsimp only
  rw [htemplate]
  exact within_evaluateAll hstatic hroot henter rfl (fun _ => rfl) hinner.guarded hinner out

theorem agrees_override {nodes expanded : List Node} {default : Action σ}
    (hblock : Dict.find? blocks name = some nodes) (hyields : name ∉ yields)
    (hstatic : Node.AllInScope .static expanded) (hdefault : default.Keeps)
    (hnodes : Action.Agrees (Context.At store blocks path (name :: yields))
      (evaluateNodes sink (evaluateAll sink) nodes)
      (evaluateNodes sink (evaluateAll sink) expanded)) :
    Action.Agrees (Context.At store blocks path yields)
      (Action.expandYield (evaluateAll sink) name default)
      (evaluateNodes sink (evaluateAll sink) expanded) := by
  refine .of_eq (.expandYield (evaluateAll_keeps sink) name hdefault) fun context out hat => ?_
  have hoverride : context.block? name = some nodes := by rw [Context.block?, hat.blocks, hblock]
  obtain ⟨inner, henter, rfl, hinner⟩ := hat.enterYield hoverride hyields
  unfold Action.expandYield
  rw [hoverride]
  exact within_evaluateAll hstatic hnodes henter rfl (fun _ => rfl) hinner.guarded hinner out

theorem agrees_default {default expanded : Action σ} (hblock : Dict.find? blocks name = none)
    (hdefault : Action.Agrees (Context.At store blocks path yields) default expanded) :
    Action.Agrees (Context.At store blocks path yields)
      (Action.expandYield (evaluateAll sink) name default) expanded := by
  refine .of_eq (.expandYield (evaluateAll_keeps sink) name hdefault.keeps)
    fun context out hat => ?_
  have hnone : context.block? name = none := by rw [Context.block?, hat.blocks, hblock]
  have hendless := hdefault.ne_endless out hat
  unfold Action.expandYield
  rw [hnone]
  exact ⟨hdefault.eq out hat, hdefault.eq out hat ▸ hendless⟩

end

section

variable {σ : Type} (sink : Sink σ) {store : Store} {blocks : BlockMap}

mutual

theorem ExpandsNode.agrees {path yields : List String} {node : Node} {expanded : List Node} :
    ExpandsNode store blocks path yields node expanded →
      Action.Agrees (Context.At store blocks path yields)
        (evaluateNode sink (evaluateAll sink) node)
        (evaluateNodes sink (evaluateAll sink) expanded)
  | .source hchildren => by
    rw [evaluateNodes_singleton]
    exact hchildren.agrees
  | .content => by
    rw [evaluateNodes_singleton]
    exact .write _
  | .comment => by
    rw [evaluateNodes_singleton]
    exact .skip
  | .display => by
    rw [evaluateNodes_singleton]
    exact .display sink _
  | .statement hstatement => by
    rw [evaluateNodes_singleton]
    exact hstatement.agrees
  | .inclusion hfind hpath hdepth hroot =>
    agrees_inclusion hfind hpath hdepth hroot.static hroot.agrees
  | .block => .skip

theorem ExpandsNodes.agrees {path yields : List String} {nodes expanded : List Node} :
    ExpandsNodes store blocks path yields nodes expanded →
      Action.Agrees (Context.At store blocks path yields)
        (evaluateNodes sink (evaluateAll sink) nodes)
        (evaluateNodes sink (evaluateAll sink) expanded)
  | .nil => .skip
  | .cons hnode hnodes => by
    rw [evaluateNodes_append]
    exact hnode.agrees.andThen Context.At.isLocal hnodes.agrees

theorem ExpandsStatement.agrees {path yields : List String} {statement : Statement}
    {expanded : Node} :
    ExpandsStatement store blocks path yields statement expanded →
      Action.Agrees (Context.At store blocks path yields)
        (evaluateStatement sink (evaluateAll sink) statement)
        (evaluateNode sink (evaluateAll sink) expanded)
  | .cond hcond => hcond.agrees
  | .override hblock hyields hnodes =>
    agrees_override hblock hyields hnodes.static
      (evaluateNodes_keeps sink (evaluateAll_keeps sink) _) hnodes.agrees
  | .default hblock hdefault => agrees_default hblock hdefault.agrees
  | .loop hbody => .loop Context.At.isLocal _ _ hbody.agrees
  | .assign => .assign _ _

theorem ExpandsCond.agrees {path yields : List String} {cond expanded : Cond} :
    ExpandsCond store blocks path yields cond expanded →
      Action.Agrees (Context.At store blocks path yields)
        (evaluateCond sink (evaluateAll sink) cond)
        (evaluateCond sink (evaluateAll sink) expanded)
  | .mk hconsequence halternative => .branch _ hconsequence.agrees halternative.agrees

theorem ExpandsAlternative.agrees {path yields : List String}
    {alternative expanded : CondAlternative} :
    ExpandsAlternative store blocks path yields alternative expanded →
      Action.Agrees (Context.At store blocks path yields)
        (evaluateAlternative sink (evaluateAll sink) alternative)
        (evaluateAlternative sink (evaluateAll sink) expanded)
  | .nothing => .skip
  | .elseIf hcond => hcond.agrees
  | .otherwise hbody => hbody.agrees

end

end

/-- A context without templates and blocks, for trees that need neither. -/
def Context.alone (registry : Registry) (data : Dict Value) : Context :=
  { data, blocks := [], registry, store := {}, entry := "" }

namespace Store

variable {store : Store} {name : String} {template : Template} {expanded : List Node}

theorem at_start (store : Store) (registry : Registry) (name : String) (template : Template)
    (data : Dict Value) :
    (store.start registry name template data).At store template.blocks [name] [] :=
  ⟨(store.hasRoom_start registry name data template).1, rfl, rfl, rfl, rfl⟩

/-- Rendering a template that has an expansion comes to the same as evaluating the expansion, which
has no includes, no yields and no blocks, with nothing but the data and the callbacks. -/
theorem render_eq_evaluate_expansion (hfind : store.find? name = some template)
    (h : ExpandsNode store template.blocks [name] [] template.root expanded) :
    Node.AllInScope .static expanded ∧
      (∀ other, ExpandsNode store template.blocks [name] [] template.root other →
        other = expanded) ∧
      ∀ {σ : Type} (registry : Registry) (sink : Sink σ) (data : Dict Value) (out : σ),
        store.render registry sink name data out =
          let outcome := evaluate sink (.source expanded) (.alone registry data) out
          (outcome.result, outcome.sink) := by
  refine ⟨h.static, fun other hother => hother.unique h, fun {σ} registry sink data out => ?_⟩
  have hat := store.at_start registry name template data
  have hroot : evaluateAll sink [template.root] (store.start registry name template data) out =
      evaluateNodes sink (evaluateAll sink) expanded
        (store.start registry name template data) out := by
    rw [isRecursive_evaluateAll sink _ _ _ hat.guarded, evaluateNodes_singleton]
    exact (h.agrees sink).eq out hat
  have halone : evaluate sink (.source expanded) (.alone registry data) out =
      evaluateNodes sink (evaluateAll sink) expanded (.alone registry data) out := by
    have hguarded : (Context.alone registry data).Guarded := ⟨List.nodup_nil, nofun⟩
    have hsource := isRecursive_evaluateAll sink [.source expanded] _ out hguarded
    rw [evaluateNodes_singleton] at hsource
    exact hsource
  have hmoved := evaluateNodes_moveTo sink (evaluateAll sink) (evaluateAll sink) h.static
    (store.start registry name template data) (.alone registry data) out
  have hplace : (store.start registry name template data).moveTo (.alone registry data) =
      .alone registry data := rfl
  rw [hplace] at hmoved
  rw [store.render_of_find?_eq_some registry sink name data out hfind, hroot, halone, hmoved]
  rfl

/-- A heading that the entry may override. -/
def layout : Template :=
  { name := "layout", version := "1",
    root := .source [.content "<h1>", .statement (.yield "title" [.content "?"]),
      .content "</h1>"] }

/-- A page that overrides the heading of its layout. -/
def page : Template :=
  { name := "page", version := "1",
    root := .source [.block "title" [.content "Home"], .inclusion "layout"],
    blocks := [("title", [.content "Home"])] }

def site : Store :=
  { templates := [("layout", layout), ("page", page)] }

/-- The page is expanded to its layout with the heading in it. -/
theorem render_eq_evaluate_expansion_page :
    site.find? "page" = some page ∧
      ∀ {σ : Type} (registry : Registry) (sink : Sink σ) (data : Dict Value) (out : σ),
        site.render registry sink "page" data out =
          let outcome := evaluate sink (.source [.source [.source [.content "<h1>",
            .source [.content "Home"], .content "</h1>"]]]) (.alone registry data) out
          (outcome.result, outcome.sink) := by
  have htitle : ExpandsStatement site page.blocks ["layout", "page"] []
      (.yield "title" [.content "?"]) (.source [.content "Home"]) :=
    .override rfl (by decide) (.cons .content .nil)
  have hlayout : ExpandsNode site page.blocks ["layout", "page"] [] layout.root
      [.source [.content "<h1>", .source [.content "Home"], .content "</h1>"]] :=
    .source (.cons .content (.cons (.statement htitle) (.cons .content .nil)))
  have hpage : ExpandsNode site page.blocks ["page"] [] page.root
      [.source [.source [.content "<h1>", .source [.content "Home"], .content "</h1>"]]] :=
    .source (.cons .block (.cons (.inclusion rfl (by decide) (by decide) hlayout) .nil))
  exact ⟨rfl, (render_eq_evaluate_expansion rfl hpage).2.2⟩

end Store

end TemplateEngine
