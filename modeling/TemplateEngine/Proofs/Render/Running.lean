import TemplateEngine.Proofs.Node.Mentions
import TemplateEngine.Proofs.Render.Moments
import TemplateEngine.Proofs.Render.Visits

/-! # Evaluation runs moment by moment

What evaluation comes to is where a run of steps ends: with the context and the sink that evaluation
leaves if it succeeds, and else at a node that fails with its error. -/

namespace TemplateEngine

section

variable {σ : Type} {sink : Sink σ}

mutual

theorem evaluateCond_eq_branch (expand : List Node → Action σ) : ∀ cond : Cond,
    evaluateCond sink expand cond = Action.withValue (·.branch cond) (evaluateNodes sink expand)
  | .mk test consequence alternative => by
    have halternative := evaluateAlternative_eq_otherwise expand alternative
    funext context out
    rw [evaluateCond, halternative]
    simp only [Action.withValue, Context.branch]
    cases context.eval test with
    | error error => rfl
    | ok value => cases htruthy : value.isTruthy <;> simp [ok_bind, htruthy] <;> rfl

theorem evaluateAlternative_eq_otherwise (expand : List Node → Action σ) :
    ∀ alternative : CondAlternative, evaluateAlternative sink expand alternative =
      Action.withValue (·.otherwise alternative) (evaluateNodes sink expand)
  | .nothing => rfl
  | .elseIf cond => evaluateCond_eq_branch expand cond
  | .otherwise _ => rfl

end

/-- What an effect comes to when the nodes that it enters are evaluated. -/
def Effect.run (sink : Sink σ) (context : Context) (out : σ) : Effect σ → Outcome σ
  | .passes context out _ => ⟨.ok (), context, out⟩
  | .enters entry nodes inner =>
    let outcome := evaluateNodes sink (evaluateAll sink) nodes inner out
    { outcome with context := entry.leave outcome.context }
  | .loops item values body =>
    let action := evaluateNodes sink (evaluateAll sink) body
    iterate item values.length action values.zipIdx context out
  | .fails error out => ⟨.error error, context, out⟩

theorem Action.write_eq_run (put : σ → Except String Unit × σ) (context : Context) (out : σ) :
    Action.write put context out = (Effect.written context (put out)).run sink context out := by
  unfold Action.write Effect.written
  cases put out with
  | mk result out' => cases result <;> rfl

theorem Action.withValue_eq_run {α : Type} {compute : Context → Except RenderError α}
    {action : α → Action σ} {next : α → Effect σ} {context : Context} {out : σ}
    (h : ∀ value, compute context = .ok value →
      action value context out = (next value).run sink context out) :
    Action.withValue compute action context out =
      (Effect.after out (compute context) next).run sink context out := by
  unfold Action.withValue Effect.after
  cases hvalue : compute context with
  | error error => rfl
  | ok value => exact h value hvalue

theorem Action.within_eq_run {enter : Context → Except RenderError Context} (entry : Entry)
    {nodes : List Node} {context : Context} {out : σ}
    (h : ∀ inner, enter context = .ok inner → inner.Guarded) :
    Action.within enter entry.leave (evaluateAll sink nodes) context out =
      (Effect.after out (enter context) (.enters entry nodes)).run sink context out := by
  unfold Action.within Effect.after
  cases henter : enter context with
  | error error => rfl
  | ok inner =>
    dsimp only
    rw [isRecursive_evaluateAll sink nodes inner out (h inner henter)]
    rfl

theorem evaluateNode_eq_run {context : Context} (h : context.Guarded) (out : σ) : ∀ node : Node,
    evaluateNode sink (evaluateAll sink) node context out =
      (node.effect sink context out).run sink context out
  | .source _ => rfl
  | .content text => Action.write_eq_run _ context out
  | .comment _ => rfl
  | .display expr => by
    rw [evaluateNode, Node.effect]
    exact Action.withValue_eq_run fun value _ => Action.write_eq_run _ context out
  | .inclusion name => by
    rw [evaluateNode, Action.includeTemplate, Node.effect]
    unfold Action.withValue
    dsimp only
    cases context.store.find? name with
    | none => rfl
    | some template =>
      exact Action.within_eq_run (.inclusion name) fun inner henter =>
        (h.enterInclude henter).1
  | .block _ _ => rfl
  | .statement (.cond cond) => by
    rw [evaluateNode, evaluateStatement, evaluateCond_eq_branch]
    exact Action.withValue_eq_run fun nodes _ => rfl
  | .statement (.yield name default) => by
    rw [evaluateNode, evaluateStatement, Action.expandYield, Node.effect]
    cases hblock : context.block? name with
    | none => rfl
    | some nodes =>
      exact Action.within_eq_run (.override name) fun inner henter =>
        (h.enterYield hblock henter).1
  | .statement (.loop item iterable body) => by
    rw [evaluateNode, evaluateStatement, Node.effect]
    exact Action.withValue_eq_run fun values _ => rfl
  | .statement (.assign name expr) => by
    rw [evaluateNode, evaluateStatement, Node.effect]
    exact Action.withValue_eq_run fun value _ => rfl

mutual

theorem Context.sizeOf_branch {context : Context} {nodes : List Node} : ∀ {cond : Cond},
    context.branch cond = .ok nodes → sizeOf nodes < sizeOf cond
  | .mk test consequence alternative, h => by
    rw [branch] at h
    obtain ⟨value, -, h⟩ := exists_of_bind_eq_ok h
    rw [Cond.mk.sizeOf_spec]
    split at h
    · cases h
      omega
    · have halternative := sizeOf_otherwise h
      omega

theorem Context.sizeOf_otherwise {context : Context} {nodes : List Node} :
    ∀ {alternative : CondAlternative}, context.otherwise alternative = .ok nodes →
      sizeOf nodes ≤ sizeOf alternative
  | .nothing, h => by
    cases h
    exact Nat.le_refl _
  | .elseIf cond, h => by
    have hcond : sizeOf nodes < sizeOf cond := sizeOf_branch h
    rw [CondAlternative.elseIf.sizeOf_spec]
    omega
  | .otherwise body, h => by
    cases h
    rw [CondAlternative.otherwise.sizeOf_spec]
    omega

end

mutual

theorem Context.mentions_branch {context : Context} {nodes : List Node} : ∀ {cond : Cond},
    context.branch cond = .ok nodes → Node.allMentions nodes ⊆ cond.mentions
  | .mk test consequence alternative, h => by
    rw [branch] at h
    obtain ⟨value, -, h⟩ := exists_of_bind_eq_ok h
    rw [Cond.mentions]
    refine fun mention hmem => List.mem_append_right _ ?_
    split at h
    · cases h
      exact List.mem_append_left _ hmem
    · exact List.mem_append_right _ (mentions_otherwise h hmem)

theorem Context.mentions_otherwise {context : Context} {nodes : List Node} :
    ∀ {alternative : CondAlternative}, context.otherwise alternative = .ok nodes →
      Node.allMentions nodes ⊆ alternative.mentions
  | .nothing, h => by
    cases h
    exact List.Subset.refl _
  | .elseIf _, h => mentions_branch h
  | .otherwise _, h => by
    cases h
    exact List.Subset.refl _

end

mutual

theorem Context.branch_ne_error {error : RenderError} (h : error.OfNesting) (context : Context) :
    ∀ cond : Cond, context.branch cond ≠ .error error
  | .mk test consequence alternative =>
    bind_ne_error (context.eval_ne_error h test) fun value => by
      split
      · exact nofun
      · exact otherwise_ne_error h context alternative

theorem Context.otherwise_ne_error {error : RenderError} (h : error.OfNesting)
    (context : Context) : ∀ alternative : CondAlternative,
      context.otherwise alternative ≠ .error error
  | .nothing => nofun
  | .elseIf cond => branch_ne_error h context cond
  | .otherwise _ => nofun

end

/-- What nodes can do in a context: the guards that they have passed, and what they have not. -/
inductive Node.Does (context : Context) (out : σ) : Node → Effect σ → Prop
  | passes {node : Node} {out' : σ} : Does context out node (.passes context out' [])
  | assigns {name : String} {expr : Expr} {value : Value} (hvalue : context.eval expr = .ok value) :
      Does context out (.statement (.assign name expr))
        (.passes (context.assign name value) out [(name, value)])
  | inside {node : Node} {nodes : List Node} (hsize : sizeOf nodes < sizeOf node)
      (hmentions : Node.allMentions nodes ⊆ node.mentions) :
      Does context out node (.enters .inside nodes context)
  | includes {name : String} {template : Template} {inner : Context}
      (hfind : context.store.find? name = some template)
      (henter : context.enterInclude name = .ok inner) :
      Does context out (.inclusion name) (.enters (.inclusion name) [template.root] inner)
  | overrides {name : String} {default nodes : List Node} {inner : Context}
      (hblock : context.block? name = some nodes) (henter : context.enterYield name = .ok inner) :
      Does context out (.statement (.yield name default)) (.enters (.override name) nodes inner)
  | loops {item : String} {iterable : Expr} {values : List Value} {body : List Node} :
      Does context out (.statement (.loop item iterable body)) (.loops item values body)
  | fails {node : Node} {error : RenderError} {out' : σ} (h : ¬error.OfNesting) :
      Does context out node (.fails error out')
  | refusesInclude {name : String} {template : Template} {error : RenderError}
      (hfind : context.store.find? name = some template)
      (henter : context.enterInclude name = .error error) :
      Does context out (.inclusion name) (.fails error out)
  | refusesOverride {name : String} {default nodes : List Node} {error : RenderError}
      (hblock : context.block? name = some nodes)
      (henter : context.enterYield name = .error error) :
      Does context out (.statement (.yield name default)) (.fails error out)

namespace Node.Does

variable {node : Node} {context : Context} {out : σ}

theorem written (written : Except String Unit × σ) :
    node.Does context out (.written context written) := by
  obtain ⟨result, out'⟩ := written
  cases result with
  | ok _ => exact .passes
  | error reason => exact .fails nofun

theorem after {α : Type} {result : Except RenderError α} {next : α → Effect σ}
    (hok : ∀ value, result = .ok value → node.Does context out (next value))
    (herror : ∀ error, result = .error error → node.Does context out (.fails error out)) :
    node.Does context out (.after out result next) := by
  cases result with
  | ok value => exact hok value rfl
  | error error => exact herror error rfl

/-- An expression never fails as an include does. -/
theorem after_value {α : Type} {result : Except RenderError α} {next : α → Effect σ}
    (hok : ∀ value, result = .ok value → node.Does context out (next value))
    (hresult : ∀ {error : RenderError}, error.OfNesting → result ≠ .error error) :
    node.Does context out (.after out result next) :=
  after hok fun _ herror => .fails fun hnesting => hresult hnesting herror

end Node.Does

theorem Node.does_effect (context : Context) (out : σ) :
    ∀ node : Node, node.Does context out (node.effect sink context out)
  | .source children => by
    refine .inside ?_ (List.Subset.refl _)
    rw [source.sizeOf_spec]
    omega
  | .content text => .written (sink.writeText text out)
  | .comment _ => .passes
  | .display expr => .after_value (fun value _ => .written (sink.write value out))
      fun hnesting => context.eval_ne_error hnesting expr
  | .inclusion name => by
    rw [effect]
    split
    · exact .fails nofun
    · next template hfind => exact .after (fun _ => .includes hfind) fun _ => .refusesInclude hfind
  | .block _ _ => .passes
  | .statement (.cond cond) => by
    refine .after_value (fun nodes hbranch => .inside ?_ (Context.mentions_branch hbranch))
      fun hnesting => context.branch_ne_error hnesting cond
    have hsize : sizeOf nodes < sizeOf cond := Context.sizeOf_branch hbranch
    rw [statement.sizeOf_spec, Statement.cond.sizeOf_spec]
    omega
  | .statement (.yield name default) => by
    rw [effect]
    split
    · refine .inside ?_ (List.Subset.refl _)
      rw [statement.sizeOf_spec, Statement.yield.sizeOf_spec]
      omega
    · next hblock => exact .after (fun _ => .overrides hblock) fun _ => .refusesOverride hblock
  | .statement (.loop item iterable body) =>
    .after_value (fun _ _ => .loops) fun hnesting =>
      bind_ne_error (context.eval_ne_error hnesting iterable) fun value =>
        value.items_ne_error hnesting item
  | .statement (.assign _ expr) =>
    .after_value (fun _ hvalue => .assigns hvalue) fun hnesting =>
      context.eval_ne_error hnesting expr

theorem Node.does_of_effect_eq {node : Node} {context : Context} {out : σ} {effect : Effect σ}
    (h : node.effect sink context out = effect) : node.Does context out effect :=
  h ▸ node.does_effect context out

/-- The run from a moment comes to where an outcome leaves it: to a next moment with the context and
the sink of a success, and to the end of the render with an error. -/
inductive Moment.Comes (sink : Sink σ) (start : Moment σ)
    (next : Context → σ → List (String × Value) → Moment σ) : Outcome σ → Prop
  | ok {context : Context} {out : σ} {made : List (String × Value)}
      (h : Reaches sink start (next context out made)) :
      Comes sink start next ⟨.ok (), context, out⟩
  | error {error : RenderError} {context : Context} {out : σ} {last : Moment σ}
      (h : Reaches sink start last) (hends : last.Ends sink (.error error, out)) :
      Comes sink start next ⟨.error error, context, out⟩

namespace Moment.Comes

variable {start other : Moment σ} {next next' : Context → σ → List (String × Value) → Moment σ}
  {context : Context} {out : σ} {outcome : Outcome σ}

theorem of_reaches (hreaches : Reaches sink start other) (h : Comes sink other next outcome) :
    Comes sink start next outcome := by
  cases h with
  | ok h => exact .ok (hreaches.trans h)
  | error h hends => exact .error (hreaches.trans h) hends

theorem head (hstep : Step sink start other) (h : Comes sink other next outcome) :
    Comes sink start next outcome :=
  h.of_reaches (.single hstep)

theorem andThen {first second : Action σ} (hfirst : Comes sink start next (first context out))
    (hsecond : ∀ {context' out'} made, first context out = ⟨.ok (), context', out'⟩ →
      Comes sink (next context' out' made) next' (second context' out')) :
    Comes sink start next' (first.andThen second context out) := by
  unfold Action.andThen
  generalize houtcome : first context out = outcome at hfirst
  cases hfirst with
  | ok h => exact (hsecond _ houtcome).of_reaches h
  | error h hends => exact .error h hends

theorem leave {change : Context → Context} (h : Comes sink start next outcome)
    (hstep : ∀ context out made,
      Step sink (next context out made) (next' (change context) out made)) :
    Comes sink start next' { outcome with context := change outcome.context } := by
  cases h with
  | ok h => exact .ok (h.tail (hstep _ _ _))
  | error h hends => exact .error h hends

end Moment.Comes

variable (sink)

/-- The run through nodes comes to their outcome, whatever is to be done after them. -/
def Context.Runs (nodes : List Node) (context : Context) : Prop :=
  ∀ entry levels out made, Moment.Comes sink ⟨.nodes entry nodes :: levels, context, out, made⟩
    (⟨.nodes entry [] :: levels, ·, ·, ·⟩) (evaluateNodes sink (evaluateAll sink) nodes context out)

variable {sink}

theorem Action.Keeps.hasRoom {action : Action σ} (hkeeps : action.Keeps)
    {context context' : Context} {depth : Nat} {out out' : σ} (h : context.HasRoom depth)
    (hok : action context out = ⟨.ok (), context', out'⟩) : context'.HasRoom depth := by
  have hcontext : context' = { context with assigned := context'.assigned } := by
    simpa [hok] using hkeeps context out
  rw [hcontext]
  exact Context.isLocal_hasRoom depth context _ _ h

theorem comes_iterate {item : String} {length depth : Nat} {body : List Node}
    (hbody : ∀ context : Context, context.HasRoom depth → context.Runs sink body)
    {levels : List Level} (todo : List (Value × Nat)) {context : Context}
    (h : context.HasRoom depth) (out : σ) (made : List (String × Value)) :
    Moment.Comes sink ⟨.loop item length body todo :: levels, context, out, made⟩
      (⟨.loop item length body [] :: levels, ·, ·, ·⟩)
      (iterate item length (evaluateNodes sink (evaluateAll sink) body) todo context out) := by
  induction todo generalizing context out made with
  | nil => exact .ok .refl
  | cons iteration todo ih =>
    obtain ⟨value, index⟩ := iteration
    have hkeeps := evaluateNodes_keeps sink (evaluateAll_keeps sink) body
    have hinner := hbody (context.pushFrame (loopFrame item value index length))
      (Context.isLocal_hasRoom depth context _ _ h)
    refine Moment.Comes.andThen (.head .iterate ((hinner _ _ out made).leave fun _ _ _ => .leave))
      fun made hok => ?_
    exact ih ((Action.Keeps.inFrame _ hkeeps).hasRoom h hok) _ made

/-- The run through a node, if those through the nodes that it goes on in come to their outcome. -/
theorem comes_evaluateNode {node : Node} {depth : Nat} {context : Context}
    (h : context.HasRoom depth)
    (hinside : ∀ (nodes : List Node) (inner : Context), sizeOf nodes < sizeOf node →
      inner.HasRoom depth → inner.Runs sink nodes)
    (helsewhere : ∀ (nodes : List Node) (inner : Context), context.Enters inner →
      inner.Runs sink nodes)
    (entry : Entry) (todo : List Node) (levels : List Level) (out : σ)
    (made : List (String × Value)) :
    Moment.Comes sink ⟨.nodes entry (node :: todo) :: levels, context, out, made⟩
      (⟨.nodes entry todo :: levels, ·, ·, ·⟩)
      (evaluateNode sink (evaluateAll sink) node context out) := by
  rw [evaluateNode_eq_run h.1]
  cases heffect : node.effect sink context out with
  | passes context' out' made' => exact .ok (.single (.pass heffect))
  | fails error out' => exact .error .refl (.fails heffect)
  | enters entry' nodes inner =>
    have hruns : inner.Runs sink nodes := by
      cases Node.does_of_effect_eq heffect with
      | inside hsize => exact hinside nodes _ hsize h
      | includes hfind henter => exact helsewhere _ inner ⟨_, .inl henter⟩
      | overrides hblock henter => exact helsewhere _ inner ⟨_, .inr ⟨⟨_, hblock⟩, henter⟩⟩
    exact .head (.enter heffect) ((hruns _ _ out made).leave fun _ _ _ => .leave)
  | loops item values body =>
    cases Node.does_of_effect_eq heffect with
    | loops =>
      have hbody : ∀ context : Context, context.HasRoom depth → context.Runs sink body := by
        refine fun context => hinside body context ?_
        rw [Node.statement.sizeOf_spec, Statement.loop.sizeOf_spec]
        omega
      exact .head (.loop heffect)
        ((comes_iterate hbody values.zipIdx h out made).leave fun _ _ _ => .finish)

/-- Where the guards hold, the run through nodes comes to what their evaluation does. The recursion
is on the room that the guards leave, and where they leave the same on the size of the nodes. -/
theorem runs_of_hasRoom {depth : Nat} {context : Context} (h : context.HasRoom depth)
    (nodes : List Node) : context.Runs sink nodes := by
  intro entry levels out made
  cases nodes with
  | nil => exact .ok .refl
  | cons node nodes =>
    have hkeeps : (evaluateNode sink (evaluateAll sink) node).Keeps := by
      rw [← evaluateNodes_singleton]
      exact evaluateNodes_keeps sink (evaluateAll_keeps sink) [node]
    refine Moment.Comes.andThen (comes_evaluateNode h (fun inside inner hsize hinner => ?_)
      (fun elsewhere inner henters => ?_) entry nodes levels out made) fun made hok => ?_
    · have hless : sizeOf inside < sizeOf (node :: nodes) := by
        rw [List.cons.sizeOf_spec]
        omega
      exact runs_of_hasRoom hinner inside
    · obtain ⟨hguarded, hless⟩ := h.1.enters henters
      have hroom : inner.room < depth := Nat.lt_of_lt_of_le hless h.2
      exact runs_of_hasRoom ⟨hguarded, Nat.le_refl _⟩ elsewhere
    · exact runs_of_hasRoom (hkeeps.hasRoom h hok) nodes entry levels _ made
termination_by (depth, sizeOf nodes)

end

namespace Store

variable {σ : Type} (store : Store) (registry : Registry) (sink : Sink σ) (name : String)
  (data : Dict Value) (out : σ)

/-- The moment in which the render of a template starts. -/
def opening (template : Template) : Moment σ :=
  ⟨[.nodes .inside [template.root]], store.start registry name template data, out, []⟩

/-- A render comes to its result moment by moment. -/
theorem render_reaches {template : Template} (h : store.find? name = some template) :
    ∃ last, Reaches sink (store.opening registry name data out template) last ∧
      last.Ends sink (store.render registry sink name data out) := by
  have hroom := store.hasRoom_start registry name data template
  have hruns : (store.start registry name template data).Runs sink [template.root] :=
    runs_of_hasRoom hroom _
  have hcomes := hruns .inside [] out []
  rw [store.render_of_find?_eq_some registry sink name data out h,
    isRecursive_evaluateAll sink [template.root] _ out hroom.1]
  generalize evaluateNodes sink (evaluateAll sink) [template.root]
    (store.start registry name template data) out = outcome at hcomes
  cases hcomes with
  | ok hreaches => exact ⟨_, hreaches.tail .leave, .done⟩
  | error hreaches hends => exact ⟨_, hreaches, hends⟩

end Store

end TemplateEngine
