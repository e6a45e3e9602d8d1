import TemplateEngine.Proofs.Render.Guards
import TemplateEngine.Proofs.Render.Static
import TemplateEngine.Proofs.Render.Writes

/-! # Greater limits of includes

A limit of includes does nothing but stop a render where it is exceeded. Under a greater limit the
render goes on from there, and a limit that leaves room for all templates is never exceeded. -/

namespace TemplateEngine

/-- The same templates under a limit that is as great at least. -/
structure Store.Deeper (store store' : Store) : Prop where
  find? : ∀ name, store'.find? name = store.find? name
  limit : store.maxIncludeDepth ≤ store'.maxIncludeDepth

/-- The second context differs from the first in its store alone, which has a limit as great at
least. -/
def Context.Deeper (context context' : Context) : Prop :=
  ∃ store', context.store.Deeper store' ∧ context' = { context with store := store' }

namespace Context.Deeper

variable {context context' : Context}

theorem eval_eq (h : context.Deeper context') (expr : Expr) :
    context'.eval expr = context.eval expr := by
  obtain ⟨store', -, rfl⟩ := h
  exact context.eval_moveTo { context with store := store' } expr

theorem find?_eq (h : context.Deeper context') (name : String) :
    context'.store.find? name = context.store.find? name := by
  obtain ⟨store', hstore, rfl⟩ := h
  exact hstore.find? name

/-- What a change makes of two contexts is related if it neither reads nor changes the store. -/
theorem map (h : context.Deeper context') (change : Context → Context)
    (hchange : ∀ (context : Context) (store : Store),
      change { context with store } = { change context with store }) :
    (change context).Deeper (change context') := by
  obtain ⟨store', hstore, rfl⟩ := h
  have hkept : (change context).store = context.store := by
    have hsame : change context = { change context with store := context.store } :=
      hchange context context.store
    rw [hsame]
  exact ⟨store', hkept ▸ hstore, hchange context store'⟩

end Context.Deeper

/-- What is entered under the greater limit is also entered under the other, unless that one is
exceeded. -/
inductive EntersDeeper : Except RenderError Context → Except RenderError Context → Prop
  | enter {inner inner' : Context} (h : inner.Deeper inner') : EntersDeeper (.ok inner) (.ok inner')
  | refuse (error : RenderError) : EntersDeeper (.error error) (.error error)
  | exceed (limit : Nat) (entered : Except RenderError Context) :
      EntersDeeper (.error (.includeDepthExceeded limit)) entered

namespace Context.Deeper

variable {context context' : Context}

theorem enterInclude (h : context.Deeper context') (name : String) :
    EntersDeeper (context.enterInclude name) (context'.enterInclude name) := by
  obtain ⟨store', hstore, rfl⟩ := h
  have hchain : ({ context with store := store' } : Context).includeChain = context.includeChain :=
    rfl
  have hlimit := hstore.limit
  unfold Context.enterInclude
  rw [hchain]
  by_cases hmem : name ∈ context.includeChain
  · rw [if_pos hmem, if_pos hmem]
    exact .refuse _
  · rw [if_neg hmem, if_neg hmem]
    by_cases hfull : context.store.maxIncludeDepth ≤ context.includeChain.length
    · rw [if_pos hfull]
      exact .exceed _ _
    · have hroom : ¬store'.maxIncludeDepth ≤ context.includeChain.length := by omega
      rw [if_neg hfull, if_neg hroom]
      exact .enter ⟨store', hstore, rfl⟩

theorem enterYield (h : context.Deeper context') (name : String) :
    EntersDeeper (context.enterYield name) (context'.enterYield name) := by
  obtain ⟨store', hstore, rfl⟩ := h
  unfold Context.enterYield
  split_ifs
  · exact .refuse _
  · exact .enter ⟨store', hstore, rfl⟩

end Context.Deeper

/-- Under the greater limit the same is written with the same result, unless the other limit was
exceeded. Then no less is written. -/
inductive Outcome.Deepens : Outcome (List Write) → Outcome (List Write) → Prop
  | same {context context' : Context} (result : Except RenderError Unit) (written : List Write)
      (h : context.Deeper context') :
      Deepens ⟨result, context, written⟩ ⟨result, context', written⟩
  | cut {written : List Write} {outcome' : Outcome (List Write)} (limit : Nat) (context : Context)
      (h : written <+: outcome'.sink) :
      Deepens ⟨.error (.includeDepthExceeded limit), context, written⟩ outcome'

/-- The second action deepens the outcomes of the first under a greater limit. It takes back nothing
that was written before. -/
structure Action.Deepens (action action' : Action (List Write)) : Prop where
  adds : ∀ context written, written <+: (action' context written).sink
  deepens : ∀ {context context' : Context} (written : List Write), context.Deeper context' →
    (action context written).Deepens (action' context' written)

namespace Action.Deepens

theorem skip : Deepens skip skip where
  adds _ _ := List.prefix_rfl
  deepens written h := .same _ written h

theorem fail (error : RenderError) : Deepens (fail error) (fail error) where
  adds _ _ := List.prefix_rfl
  deepens written h := .same _ written h

theorem assignValue (name : String) (value : Value) :
    Deepens (assignValue name value) (assignValue name value) where
  adds _ _ := List.prefix_rfl
  deepens written h := .same _ written (h.map (·.assign name value) fun _ _ => rfl)

theorem put (write : Write) :
    Deepens (Action.write (Sink.log.put write)) (Action.write (Sink.log.put write)) where
  adds _ written := by
    unfold Action.write
    rw [Sink.log_put]
    exact List.prefix_append written [write]
  deepens written h := by
    unfold Action.write
    rw [Sink.log_put]
    exact .same _ _ h

/-- A first part that was cut stays cut, whatever the other one writes after it. -/
theorem andThen {first first' second second' : Action (List Write)} (hfirst : Deepens first first')
    (hsecond : Deepens second second') :
    Deepens (first.andThen second) (first'.andThen second') := by
  have hadds : ∀ context written,
      (first' context written).sink <+: (first'.andThen second' context written).sink := by
    intro context written
    unfold Action.andThen
    dsimp only
    split
    · exact hsecond.adds _ _
    · exact List.prefix_rfl
  refine ⟨fun context written => (hfirst.adds context written).trans (hadds context written),
    fun {context context'} written h => ?_⟩
  have hboth := hfirst.deepens written h
  have hlonger := hadds context' written
  unfold Action.andThen at hlonger ⊢
  generalize first context written = outcome at hboth ⊢
  generalize first' context' written = outcome' at hboth hlonger ⊢
  cases hboth with
  | cut limit context hstarts => exact .cut limit context (hstarts.trans hlonger)
  | same result written' hdeeper =>
    cases result with
    | error error => exact .same _ written' hdeeper
    | ok _ => exact hsecond.deepens written' hdeeper

theorem withValue {α : Type} {compute : Context → Except RenderError α}
    {next next' : α → Action (List Write)}
    (hcompute : ∀ {context context' : Context}, context.Deeper context' →
      compute context' = compute context)
    (h : ∀ value, Deepens (next value) (next' value)) :
    Deepens (withValue compute next) (withValue compute next') where
  adds context written := by
    unfold Action.withValue
    split
    · exact (h _).adds context written
    · exact List.prefix_rfl
  deepens {context context'} written hdeeper := by
    unfold Action.withValue
    rw [hcompute hdeeper]
    split
    · exact (h _).deepens written hdeeper
    · exact .same _ written hdeeper

theorem within {enter : Context → Except RenderError Context} {leave : Context → Context}
    {action action' : Action (List Write)}
    (henter : ∀ {context context' : Context}, context.Deeper context' →
      EntersDeeper (enter context) (enter context'))
    (hleave : ∀ {context context' : Context}, context.Deeper context' →
      (leave context).Deeper (leave context'))
    (h : Deepens action action') :
    Deepens (within enter leave action) (within enter leave action') := by
  have hadds : ∀ context written,
      written <+: (Action.within enter leave action' context written).sink := by
    intro context written
    unfold Action.within
    split
    · exact h.adds _ written
    · exact List.prefix_rfl
  refine ⟨hadds, fun {context context'} written hdeeper => ?_⟩
  have hlonger := hadds context' written
  have hentered := henter hdeeper
  unfold Action.within at hlonger ⊢
  generalize enter context = entered at hentered ⊢
  generalize enter context' = entered' at hentered hlonger ⊢
  cases hentered with
  | refuse error => exact .same _ written hdeeper
  | exceed limit entered => exact .cut limit context hlonger
  | @enter inner inner' hinner =>
    have hboth := h.deepens written hinner
    dsimp only
    generalize action inner written = outcome at hboth ⊢
    generalize action' inner' written = outcome' at hboth ⊢
    cases hboth with
    | same result written' hafter => exact .same result written' (hleave hafter)
    | cut limit context hstarts => exact .cut limit (leave context) hstarts

theorem inFrame (frame : Dict Value) {action action' : Action (List Write)}
    (h : Deepens action action') : Deepens (inFrame frame action) (inFrame frame action') :=
  within (fun hdeeper => .enter (hdeeper.map (·.pushFrame frame) fun _ _ => rfl))
    (fun hdeeper => hdeeper.map Context.popFrame fun _ _ => rfl) h

variable {expand expand' : List Node → Action (List Write)}

theorem includeTemplate (h : ∀ nodes, Deepens (expand nodes) (expand' nodes)) (name : String) :
    Deepens (includeTemplate expand name) (includeTemplate expand' name) :=
  withValue (fun hdeeper => by rw [hdeeper.find?_eq]) fun _ =>
    within (fun hdeeper => hdeeper.enterInclude name)
      (fun hdeeper => hdeeper.map Context.leaveInclude fun _ _ => rfl) (h _)

theorem expandYield (h : ∀ nodes, Deepens (expand nodes) (expand' nodes)) (name : String)
    {default default' : Action (List Write)} (hdefault : Deepens default default') :
    Deepens (expandYield expand name default) (expandYield expand' name default') := by
  have hoverride : ∀ nodes, Deepens
      (Action.within (·.enterYield name) Context.leaveYield (expand nodes))
      (Action.within (·.enterYield name) Context.leaveYield (expand' nodes)) := fun nodes =>
    within (fun hdeeper => hdeeper.enterYield name)
      (fun hdeeper => hdeeper.map Context.leaveYield fun _ _ => rfl) (h nodes)
  refine ⟨fun context written => ?_, fun {context context'} written hdeeper => ?_⟩
  · unfold Action.expandYield
    split
    · exact (hoverride _).adds context written
    · exact hdefault.adds context written
  · have hblock : context'.block? name = context.block? name := by
      obtain ⟨store', -, rfl⟩ := hdeeper
      rfl
    unfold Action.expandYield
    rw [hblock]
    split
    · exact (hoverride _).deepens written hdeeper
    · exact hdefault.deepens written hdeeper

theorem compositional (h : ∀ nodes, Deepens (expand nodes) (expand' nodes)) :
    Compositional {} Sink.log Sink.log expand expand' Deepens where
  skip := skip
  andThen := andThen
  content text := put (.text text)
  display {expr} _ := withValue (fun hdeeper => hdeeper.eval_eq expr) fun value =>
    put (.value value)
  inclusion _ := includeTemplate h _
  yield _ hdefault := expandYield h _ hdefault
  loop {iterable _ _} item _ hbody :=
    withValue (fun hdeeper => by rw [hdeeper.eval_eq iterable]) fun values =>
      forEach_related _ skip andThen item values fun frame => inFrame frame hbody
  assign {value} name _ :=
    withValue (fun hdeeper => hdeeper.eval_eq value) fun value => assignValue name value
  branch {test _ _ _ _} _ hconsequence halternative :=
    withValue (fun hdeeper => hdeeper.eval_eq test) fun value => by split <;> assumption

end Action.Deepens

theorem evaluateWithin_deepens (depth : Nat) (nodes : List Node) :
    Action.Deepens (evaluateWithin .log depth nodes) (evaluateWithin .log depth nodes) := by
  induction depth generalizing nodes with
  | zero =>
    exact (Action.Deepens.compositional fun _ => .fail .endless).evaluateNodes
      (Node.allInScope_all nodes)
  | succ depth ih =>
    exact (Action.Deepens.compositional ih).evaluateNodes (Node.allInScope_all nodes)

namespace Store

variable {store store' : Store} {σ : Type}

theorem logged_of_find?_eq_some (store : Store) (registry : Registry) {name : String}
    (data : Dict Value) {template : Template} (h : store.find? name = some template) {depth : Nat}
    (hdepth : store.maxIncludeDepth - 1 + template.blocks.length ≤ depth) :
    store.logged registry name data =
      ((evaluateWithin .log depth [template.root]
          (store.start registry name template data) []).result,
        (evaluateWithin .log depth [template.root]
          (store.start registry name template data) []).sink) := by
  obtain ⟨hguarded, hroom⟩ := store.hasRoom_start registry name data template
  have hagrees := (evaluateWithin_agrees .log depth [template.root]).eq []
    ⟨hguarded, Nat.le_trans hroom hdepth⟩
  rw [logged, store.render_of_find?_eq_some registry .log name data [] h, hagrees]

/-- The log of a render under a greater limit is the same, or goes on from where the other limit
was exceeded. -/
theorem Deeper.logged (h : store.Deeper store') (registry : Registry) (name : String)
    (data : Dict Value) :
    store'.logged registry name data = store.logged registry name data ∨
      (∃ limit, (store.logged registry name data).1 = .error (.includeDepthExceeded limit)) ∧
        (store.logged registry name data).2 <+: (store'.logged registry name data).2 := by
  have hsame := h.find? name
  cases hfind : store.find? name with
  | none =>
    left
    rw [Store.logged, Store.logged, render, render, hsame, hfind]
  | some template =>
    rw [hfind] at hsame
    let depth := store'.maxIncludeDepth - 1 + template.blocks.length
    have hdepth : store.maxIncludeDepth - 1 + template.blocks.length ≤ depth := by
      have hlimit := h.limit
      omega
    rw [store.logged_of_find?_eq_some registry data hfind hdepth,
      store'.logged_of_find?_eq_some registry data hsame (Nat.le_refl depth)]
    have hstart : (store.start registry name template data).Deeper
        (store'.start registry name template data) := ⟨store', h, rfl⟩
    have hboth := (evaluateWithin_deepens depth [template.root]).deepens [] hstart
    generalize evaluateWithin .log depth [template.root]
      (store.start registry name template data) [] = outcome at hboth ⊢
    generalize evaluateWithin .log depth [template.root]
      (store'.start registry name template data) [] = outcome' at hboth ⊢
    cases hboth with
    | same result written _ => exact .inl rfl
    | cut limit context hstarts => exact .inr ⟨⟨limit, rfl⟩, hstarts⟩

theorem AllowsChain.length_lt_size {blocks : BlockMap} {chain : List String} {name : String}
    (h : store.AllowsChain blocks chain) (hregistered : (store.find? name).isSome)
    (hmem : name ∉ chain) : chain.length < store.size := by
  have hknown : ∀ other ∈ name :: chain, other ∈ store.names := by
    intro other hother
    have hsome : (store.find? other).isSome := by
      rcases List.mem_cons.mp hother with rfl | hchain
      · exact hregistered
      · exact h.registered other hchain
    obtain ⟨template, hfind⟩ := Option.isSome_iff_exists.mp hsome
    exact Dict.mem_keys_of_find?_eq_some hfind
  have hlength := ((List.nodup_cons.mpr ⟨hmem, h.nodup⟩).subperm hknown).length_le
  rw [List.length_cons, names, Dict.keys, List.length_map] at hlength
  exact hlength

/-- A limit with room for all templates is never exceeded. -/
theorem render_ne_includeDepthExceeded (h : store.size ≤ store.maxIncludeDepth)
    (registry : Registry) (sink : Sink σ) (name : String) (data : Dict Value) (out : σ)
    (limit : Nat) :
    (store.render registry sink name data out).1 ≠ .error (.includeDepthExceeded limit) := by
  intro herror
  obtain ⟨rfl, moment, included, hcomes, -, -, hlength, hregistered, hmem⟩ :=
    includeDepthExceeded_of_render herror
  obtain ⟨template, -, hsecure⟩ := hcomes.secure
  have hless : moment.context.includeChain.length < store.size :=
    hsecure.allowed.length_lt_size hregistered hmem
  omega

/-- Under a greater limit of includes a render writes the same with the same result, unless the
smaller limit is exceeded. Then what it has written until there is written first. A limit with room
for all templates is never exceeded. -/
theorem render_limits (h : store.Deeper store') (registry : Registry) (name : String)
    (data : Dict Value) :
    let shallow := store.logged registry name data
    let deep := store'.logged registry name data
    (∀ {σ : Type} (sink : Sink σ), sink.NeverFails → ∀ out,
        store.render registry sink name data out = (shallow.1, sink.after shallow.2 out) ∧
        store'.render registry sink name data out = (deep.1, sink.after deep.2 out)) ∧
      ((∀ limit, shallow.1 ≠ .error (.includeDepthExceeded limit)) → deep = shallow) ∧
      (∀ limit, shallow.1 = .error (.includeDepthExceeded limit) → shallow.2 <+: deep.2) ∧
      (store.size ≤ store.maxIncludeDepth → ∀ {σ : Type} (sink : Sink σ) out limit,
        (store.render registry sink name data out).1 ≠ .error (.includeDepthExceeded limit)) := by
  intro shallow deep
  have hlogged : deep = shallow ∨
      (∃ limit, shallow.1 = .error (.includeDepthExceeded limit)) ∧ shallow.2 <+: deep.2 :=
    h.logged registry name data
  refine ⟨fun sink hsink out => ?_, fun hnever => ?_, fun limit hexceeded => ?_,
    fun hroom {σ} sink out limit => ?_⟩
  · exact ⟨store.render_eq_logged registry name data hsink out,
      store'.render_eq_logged registry name data hsink out⟩
  · obtain hsame | ⟨⟨limit, hexceeded⟩, -⟩ := hlogged
    · exact hsame
    · exact absurd hexceeded (hnever limit)
  · obtain hsame | ⟨-, hstarts⟩ := hlogged
    · exact hsame ▸ List.prefix_rfl
    · exact hstarts
  · exact render_ne_includeDepthExceeded hroom registry sink name data out limit

/-- Three templates, each of which includes the next. -/
def nested (limit : Nat) (hlimit : 1 ≤ limit := by exact Nat.le_of_ble_eq_true rfl) : Store where
  templates := [
    ("a", ⟨"a", "1", .source [.content "a", .inclusion "b", .content "a"], []⟩),
    ("b", ⟨"b", "1", .source [.content "b", .inclusion "c", .content "b"], []⟩),
    ("c", ⟨"c", "1", .content "c", []⟩)]
  maxIncludeDepth := limit
  one_le_maxIncludeDepth := hlimit

/-- A limit of two ends the render before the third template, and a limit of three never does. -/
theorem render_limits_nested :
    (nested 2).Deeper (nested 3) ∧
      (nested 2).logged {} "a" [] =
        (.error (.includeDepthExceeded 2), [.text "a", .text "b"]) ∧
      [.text "a", .text "b"] <+: ((nested 3).logged {} "a" []).2 ∧
      (nested 2).render {} .text "a" [] "" = (.error (.includeDepthExceeded 2), "ab") ∧
      ∀ limit, ((nested 3).render {} .text "a" [] "").1 ≠ .error (.includeDepthExceeded limit) := by
  have hdeeper : (nested 2).Deeper (nested 3) := ⟨fun _ => rfl, by decide⟩
  have hsame : (nested 3).Deeper (nested 3) := ⟨fun _ => rfl, Nat.le_refl 3⟩
  have hlogged : (nested 2).logged {} "a" [] =
      (.error (.includeDepthExceeded 2), [.text "a", .text "b"]) := rfl
  obtain ⟨hsinks, -, hstarts, -⟩ := render_limits hdeeper {} "a" []
  obtain ⟨-, -, -, hnever⟩ := render_limits hsame {} "a" []
  rw [hlogged] at hsinks hstarts
  exact ⟨hdeeper, hlogged, hstarts 2 rfl, (hsinks .text Sink.neverFails_text "").1,
    hnever (by decide) .text ""⟩

end Store

end TemplateEngine
