import TemplateEngine.Proofs.Except
import TemplateEngine.Proofs.Render.Related
import TemplateEngine.Proofs.Render.Termination
import TemplateEngine.Proofs.Template.Registered

/-! # What a render depends on

A render looks up nothing but what is mentioned in the trees that it can reach. Two contexts that
agree on all of it are told apart by no write and by no result. -/

namespace TemplateEngine

def Scope.known (Known : Mention → Prop) : Scope where
  expr expr := ∀ mention ∈ expr.mentions, Known mention
  inclusion name := Known (.inclusion name)

section

variable {Known : Mention → Prop}

mutual

theorem Node.inScope_known : ∀ {node : Node}, (∀ mention ∈ node.mentions, Known mention) →
    node.InScope (.known Known)
  | .source _, h => Node.allInScope_known h
  | .content _, _ => trivial
  | .comment _, _ => trivial
  | .display _, h => h
  | .statement _, h => Statement.inScope_known h
  | .inclusion _, h => h _ (List.mem_singleton_self _)
  | .block _ _, _ => trivial

theorem Node.allInScope_known : ∀ {nodes : List Node},
    (∀ mention ∈ Node.allMentions nodes, Known mention) → Node.AllInScope (.known Known) nodes
  | [], _ => trivial
  | _ :: _, h =>
    ⟨Node.inScope_known (List.forall_mem_append.mp h).1,
      Node.allInScope_known (List.forall_mem_append.mp h).2⟩

theorem Statement.inScope_known : ∀ {statement : Statement},
    (∀ mention ∈ statement.mentions, Known mention) → statement.InScope (.known Known)
  | .cond _, h => Cond.inScope_known h
  | .yield _ _, h => ⟨trivial, Node.allInScope_known h⟩
  | .loop _ _ _, h =>
    ⟨(List.forall_mem_append.mp h).1, Node.allInScope_known (List.forall_mem_append.mp h).2⟩
  | .assign _ _, h => h

theorem Cond.inScope_known : ∀ {cond : Cond}, (∀ mention ∈ cond.mentions, Known mention) →
    cond.InScope (.known Known)
  | .mk _ _ _, h => by
    obtain ⟨htest, hbranches⟩ := List.forall_mem_append.mp h
    obtain ⟨hconsequence, halternative⟩ := List.forall_mem_append.mp hbranches
    exact ⟨htest, Node.allInScope_known hconsequence, CondAlternative.inScope_known halternative⟩

theorem CondAlternative.inScope_known : ∀ {alternative : CondAlternative},
    (∀ mention ∈ alternative.mentions, Known mention) → alternative.InScope (.known Known)
  | .nothing, _ => trivial
  | .elseIf _, h => Cond.inScope_known h
  | .otherwise _, h => Node.allInScope_known h

end

end

namespace Context

/-- The contexts agree on what is known. A template that is being rendered may differ, since no
include can continue in it. -/
structure Alike (Known : Mention → Prop) (context context' : Context) : Prop where
  frames : context.frames = context'.frames
  blocks : context.blocks = context'.blocks
  entry : context.entry = context'.entry
  included : context.included = context'.included
  yields : context.yields = context'.yields
  limit : context.store.maxIncludeDepth = context'.store.maxIncludeDepth
  value : ∀ name, Known (.var name) →
    findIn? [context.assigned, context.data] name = findIn? [context'.assigned, context'.data] name
  filter : ∀ name, Known (.callback name) →
    context.registry.filter? name = context'.registry.filter? name
  function : ∀ name, Known (.callback name) →
    context.registry.function? name = context'.registry.function? name
  template : ∀ name, Known (.inclusion name) →
    (name = context.entry ∧ (context.store.find? name).isSome ∧
        (context'.store.find? name).isSome) ∨
      (context.store.find? name = context'.store.find? name ∧
        ∀ template ∈ context.store.find? name, ∀ mention ∈ template.root.mentions, Known mention)
  override : ∀ name, ∀ nodes ∈ context.block? name,
    ∀ mention ∈ Node.allMentions nodes, Known mention

namespace Alike

variable {Known : Mention → Prop} {context context' : Context}

theorem lookup? (h : Alike Known context context') {name : String} (hname : Known (.var name)) :
    context.lookup? name = context'.lookup? name := by
  have hvalue := h.value name hname
  unfold findIn? at hvalue
  unfold Context.lookup? findIn?
  rw [List.findSome?_append, List.findSome?_append, h.frames, hvalue]

theorem resolve? (h : Alike Known context context') {name : String}
    (hname : Known (.callback name)) (count : Nat) :
    context.registry.resolve? name count = context'.registry.resolve? name count := by
  rw [Registry.resolve?, Registry.resolve?, h.function name hname, h.filter name hname]

mutual

theorem eval (h : Alike Known context context') : ∀ {expr : Expr},
    (∀ mention ∈ expr.mentions, Known mention) → context.eval expr = context'.eval expr
  | .content _, _ => rfl
  | .var name, hexpr => by
    rw [Context.eval, Context.eval, h.lookup? (hexpr _ (List.mem_singleton_self _))]
  | .selector base accessor, hexpr => by
    have hbase : context.eval base = context'.eval base := h.eval hexpr
    rw [Context.eval, Context.eval, hbase]
  | .filter name input, hexpr => by
    obtain ⟨hname, hinput⟩ := List.forall_mem_cons.mp hexpr
    rw [Context.eval, Context.eval, h.filter name hname, h.eval hinput]
  | .function name args, hexpr => by
    obtain ⟨hname, hargs⟩ := List.forall_mem_cons.mp hexpr
    rw [Context.eval, Context.eval, h.resolve? hname, h.evalAll hargs]

theorem evalAll (h : Alike Known context context') : ∀ {args : List Argument},
    (∀ mention ∈ Argument.allMentions args, Known mention) →
      context.evalAll args = context'.evalAll args
  | [], _ => rfl
  | _ :: _, hargs => by
    obtain ⟨harg, hargs⟩ := List.forall_mem_append.mp hargs
    rw [Context.evalAll, Context.evalAll, h.evalArgument harg, h.evalAll hargs]

theorem evalArgument (h : Alike Known context context') : ∀ {arg : Argument},
    (∀ mention ∈ arg.mentions, Known mention) →
      context.evalArgument arg = context'.evalArgument arg
  | .literal _ _, _ => rfl
  | .value _ _, harg => h.eval harg

end

variable {name : String}

theorem assign (h : Alike Known context context') (name : String) (value : Value) :
    Alike Known (context.assign name value) (context'.assign name value) := by
  refine { h with value := fun other hother => ?_ }
  have hvalue := h.value other hother
  simp only [findIn?, List.findSome?_cons] at hvalue ⊢
  by_cases hname : other = name
  · subst hname
    rw [Context.assign, Context.assign, Dict.find?_insert_self, Dict.find?_insert_self]
  · rw [Context.assign, Context.assign, Dict.find?_insert_of_ne hname,
      Dict.find?_insert_of_ne hname]
    exact hvalue

theorem pushFrame (h : Alike Known context context') (frame : Dict Value) :
    Alike Known (context.pushFrame frame) (context'.pushFrame frame) :=
  { h with frames := congrArg (frame :: ·) h.frames }

theorem popFrame (h : Alike Known context context') :
    Alike Known context.popFrame context'.popFrame :=
  { h with frames := congrArg List.tail h.frames }

theorem leaveInclude (h : Alike Known context context') :
    Alike Known context.leaveInclude context'.leaveInclude :=
  { h with included := congrArg List.tail h.included }

theorem leaveYield (h : Alike Known context context') :
    Alike Known context.leaveYield context'.leaveYield :=
  { h with yields := congrArg List.tail h.yields }

theorem includeChain (h : Alike Known context context') :
    context.includeChain = context'.includeChain := by
  rw [Context.includeChain, Context.includeChain, h.entry, h.included]

theorem room (h : Alike Known context context') : context.room = context'.room := by
  rw [Context.room, Context.room, h.includeChain, h.limit, h.blocks, h.yields]

theorem block? (h : Alike Known context context') (name : String) :
    context.block? name = context'.block? name := by
  rw [Context.block?, Context.block?, h.blocks]

end Alike

theorem Alike.congruence {Known : Mention → Prop} : Congruence (.known Known) (Alike Known) where
  eval h hexpr := h.eval hexpr
  assign h name value := h.assign name value
  pushFrame h frame := h.pushFrame frame
  popFrame h := h.popFrame

theorem Alike.enterInclude {Known : Mention → Prop} {context context' : Context}
    (h : Alike Known context context') (name : String) :
    EntersRelated (Alike Known) (context.enterInclude name) (context'.enterInclude name) := by
  unfold Context.enterInclude
  rw [h.includeChain, h.limit]
  split_ifs
  · exact .inl ⟨_, rfl, rfl⟩
  · exact .inl ⟨_, rfl, rfl⟩
  · exact .inr ⟨_, _, rfl, rfl, { h with included := congrArg (name :: ·) h.included }⟩

theorem Alike.enterYield {Known : Mention → Prop} {context context' : Context}
    (h : Alike Known context context') (name : String) :
    EntersRelated (Alike Known) (context.enterYield name) (context'.enterYield name) := by
  unfold Context.enterYield
  rw [h.yields]
  split_ifs
  · exact .inl ⟨_, rfl, rfl⟩
  · exact .inr ⟨_, _, rfl, rfl, { h with yields := rfl }⟩

end Context

namespace Action

variable {σ : Type}

/-- No include goes back to a template that is being rendered. -/
theorem includeTemplate_of_mem {expand : List Node → Action σ} {context : Context} {out : σ}
    {name : String} (hfind : (context.store.find? name).isSome)
    (hmem : name ∈ context.includeChain) :
    includeTemplate expand name context out =
      fail (.circularInclude (context.includeChain ++ [name])) context out := by
  obtain ⟨template, hfind⟩ := Option.isSome_iff_exists.mp hfind
  simp only [includeTemplate, withValue, hfind, Option.elim, within, Context.enterInclude,
    if_pos hmem]

/-- Contexts that agree are told apart by neither action. -/
abbrev Alike (Known : Mention → Prop) (action action' : Action σ) : Prop :=
  Respects (Context.Alike Known) action action'

namespace Alike

variable {Known : Mention → Prop} {expand : List Node → Action σ}

/-- An include of the entry is refused before its tree is looked at, since the entry is on the
chain. -/
theorem includeTemplate (hexpand : ∀ nodes, (∀ mention ∈ Node.allMentions nodes, Known mention) →
      Alike Known (expand nodes) (expand nodes))
    {name : String} (hname : Known (.inclusion name)) :
    Alike Known (includeTemplate expand name) (includeTemplate expand name) := by
  intro context context' out h
  obtain ⟨hentry, hsome, hsome'⟩ | ⟨hsame, hmentions⟩ := h.template name hname
  · have hmem : name ∈ context.includeChain := hentry ▸ List.mem_cons_self
    have hmem' : name ∈ context'.includeChain := h.includeChain ▸ hmem
    rw [includeTemplate_of_mem hsome hmem, includeTemplate_of_mem hsome' hmem', h.includeChain]
    exact ⟨rfl, rfl, h⟩
  · unfold Action.includeTemplate Action.withValue
    dsimp only
    rw [← hsame]
    cases hfind : context.store.find? name with
    | none => exact ⟨rfl, rfl, h⟩
    | some template =>
      have hroot : ∀ mention ∈ Node.allMentions [template.root], Known mention := by
        rw [Node.allMentions_singleton]
        exact hmentions template hfind
      exact Respects.within (fun hcontext => hcontext.enterInclude name)
        (fun hcontext => hcontext.leaveInclude) (hexpand _ hroot) context context' out h

theorem expandYield (hexpand : ∀ nodes, (∀ mention ∈ Node.allMentions nodes, Known mention) →
      Alike Known (expand nodes) (expand nodes)) (name : String) {default default' : Action σ}
    (hdefault : Alike Known default default') :
    Alike Known (expandYield expand name default) (expandYield expand name default') := by
  intro context context' out h
  unfold Action.expandYield
  rw [← h.block? name]
  split
  · next nodes hblock =>
    exact Respects.within (fun hcontext => hcontext.enterYield name)
      (fun hcontext => hcontext.leaveYield) (hexpand nodes (h.override name nodes hblock)) context
      context' out h
  · exact hdefault context context' out h

theorem compositional (sink : Sink σ)
    (hexpand : ∀ nodes, (∀ mention ∈ Node.allMentions nodes, Known mention) →
      Alike Known (expand nodes) (expand nodes)) :
    Compositional (.known Known) sink sink expand expand (Alike Known) :=
  Respects.compositional Context.Alike.congruence sink (fun _ => includeTemplate hexpand)
    (expandYield hexpand)

end Alike

end Action

section

variable {σ : Type} {Known : Mention → Prop} (sink : Sink σ)

theorem evaluateWithin_alike (depth : Nat) {nodes : List Node}
    (h : ∀ mention ∈ Node.allMentions nodes, Known mention) :
    Action.Alike Known (evaluateWithin sink depth nodes) (evaluateWithin sink depth nodes) := by
  induction depth generalizing nodes with
  | zero =>
    exact (Action.Alike.compositional sink fun _ _ => Action.Respects.fail .endless).evaluateNodes
      (Node.allInScope_known h)
  | succ depth ih =>
    exact (Action.Alike.compositional sink fun _ hnodes => ih hnodes).evaluateNodes
      (Node.allInScope_known h)

theorem evaluateAll_alike {nodes : List Node}
    (h : ∀ mention ∈ Node.allMentions nodes, Known mention) :
    Action.Alike Known (evaluateAll sink nodes) (evaluateAll sink nodes) := by
  intro context context' out hcontext
  unfold evaluateAll
  rw [← hcontext.room]
  exact evaluateWithin_alike sink context.room h context context' out hcontext

/-- Contexts that agree on all that nodes mention, and on what lies behind it, are told apart by no
evaluation of the nodes. -/
theorem evaluateNodes_alike {nodes : List Node}
    (h : ∀ mention ∈ Node.allMentions nodes, Known mention) :
    Action.Alike Known (evaluateNodes sink (evaluateAll sink) nodes)
      (evaluateNodes sink (evaluateAll sink) nodes) :=
  (Action.Alike.compositional sink fun _ hnodes => evaluateAll_alike sink hnodes).evaluateNodes
    (Node.allInScope_known h)

end

namespace Store

/-- Some template among those of the names mentions it. -/
def Mentions (store : Store) (names : Set String) (mention : Mention) : Prop :=
  ∃ name ∈ names, ∃ template, store.find? name = some template ∧
    mention ∈ template.root.mentions

/-- A render depends only on the templates that includes can lead to from its entry, and on the
data and the callbacks that those mention. -/
theorem render_eq_of_agree {store store' : Store} {registry registry' : Registry}
    {data data' : Dict Value} {entry : String} {names : Set String} (hbuilt : store.Built)
    (hlimit : store.maxIncludeDepth = store'.maxIncludeDepth) (hentry : entry ∈ names)
    (hclosed : ∀ name, store.Mentions names (.inclusion name) → name ∈ names)
    (htemplates : ∀ name ∈ names, store.find? name = store'.find? name)
    (hdata : ∀ name, store.Mentions names (.var name) →
      Dict.find? data name = Dict.find? data' name)
    (hfilters : ∀ name, store.Mentions names (.callback name) →
      registry.filter? name = registry'.filter? name)
    (hfunctions : ∀ name, store.Mentions names (.callback name) →
      registry.function? name = registry'.function? name)
    {σ : Type} (sink : Sink σ) (out : σ) :
    store.render registry sink entry data out = store'.render registry' sink entry data' out := by
  cases hfind : store.find? entry with
  | none =>
    have hfind' : store'.find? entry = none := htemplates entry hentry ▸ hfind
    rw [render, render, hfind, hfind']
  | some template =>
    have hfind' : store'.find? entry = some template := htemplates entry hentry ▸ hfind
    have hroot : ∀ mention ∈ template.root.mentions, store.Mentions names mention :=
      fun mention hmem => ⟨entry, hentry, template, hfind, hmem⟩
    have hstart : (store.start registry entry template data).Alike (store.Mentions names)
        (store'.start registry' entry template data') := {
      frames := rfl
      blocks := rfl
      entry := rfl
      included := rfl
      yields := rfl
      limit := hlimit
      value := fun name hname => by
        simp only [Context.findIn?, start, List.findSome?_cons, Dict.find?]
        rw [hdata name hname]
      filter := hfilters
      function := hfunctions
      template := fun name hname => by
        have hmem := hclosed name hname
        exact .inr ⟨htemplates name hmem, fun found hfound mention hmention =>
          ⟨name, hmem, found, hfound, hmention⟩⟩
      override := fun name nodes hnodes mention hmem =>
        hroot mention ((hbuilt.of_find? hfind).2.mentioned name nodes hnodes hmem) }
    have hnodes : ∀ mention ∈ Node.allMentions [template.root],
        store.Mentions names mention := by
      rw [Node.allMentions_singleton]
      exact hroot
    have houtcome := evaluateAll_alike sink hnodes _ _ out hstart
    rw [render_of_find?_eq_some _ _ _ _ _ _ hfind, render_of_find?_eq_some _ _ _ _ _ _ hfind',
      houtcome.result, houtcome.sink]

def headTemplate : Template :=
  ⟨"head", "1", .display (.filter "f" (.var "title")), []⟩

def pageTemplate : Template :=
  ⟨"page", "1", .source [.inclusion "head", .display (.selector (.var "user") (.var "name"))], []⟩

/-- A page that includes its head, and templates that it does not include. -/
def shelf (others : Dict Template) : Store where
  templates := ("head", headTemplate) :: ("page", pageTemplate) :: others

theorem shelf_built : (shelf []).Built := by
  let heads : Store := { templates := [("head", headTemplate)] }
  have hhead : (withMaxIncludeDepth defaultIncludeDepth).add headTemplate = .ok heads := rfl
  have hpage : heads.add pageTemplate = .ok (shelf []) := rfl
  exact .add (.add (.empty defaultIncludeDepth) hhead) hpage

theorem mem_of_shelf_mentions {mention : Mention}
    (h : (shelf []).Mentions {"head", "page"} mention) :
    mention ∈ [.callback "f", .var "title", .inclusion "head", .var "user"] := by
  obtain ⟨name, rfl | rfl, template, hfind, hmem⟩ := h
  · cases hfind
    exact List.mem_append_left [.inclusion "head", .var "user"] hmem
  · cases hfind
    exact List.mem_append_right [.callback "f", .var "title"] hmem

/-- A template, a key and a filter that the page does not mention make no difference to it, and
neither does a key that it mentions only as a field. -/
theorem render_eq_of_agree_shelf :
    let user : Value := .object [("name", .string "U")]
    let text := (shelf []).render { filters := [("f", .ok)] } Sink.text "page"
      [("title", .string "T"), ("user", user)] ""
    text = (.ok (), "TU") ∧
      text = (shelf [("row", ⟨"row", "1", .comment "", []⟩)]).render
        { filters := [("f", .ok), ("g", .ok)] } Sink.text "page"
        [("name", .null), ("title", .string "T"), ("user", user)] "" := by
  intro user text
  have hclosed : ∀ name, (shelf []).Mentions {"head", "page"} (.inclusion name) →
      name ∈ ({"head", "page"} : Set String) := by
    intro name h
    have hname : name = "head" := by simpa using mem_of_shelf_mentions h
    exact .inl hname
  refine ⟨rfl, render_eq_of_agree shelf_built ?_ (.inr rfl) hclosed ?_ ?_ ?_ ?_ _ _⟩
  · rfl
  · rintro name (rfl | rfl) <;> rfl
  · intro name h
    have hname : name = "title" ∨ name = "user" := by simpa using mem_of_shelf_mentions h
    rcases hname with rfl | rfl <;> rfl
  · intro name h
    obtain rfl : name = "f" := by simpa using mem_of_shelf_mentions h
    rfl
  · exact fun _ _ => rfl

end Store

end TemplateEngine
