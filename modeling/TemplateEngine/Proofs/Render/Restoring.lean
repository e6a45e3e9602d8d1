import TemplateEngine.Proofs.Render.Visits

/-! # Contexts after evaluation

Evaluation leaves a context as it found it, however it ends: the includes, the overrides and the
frames are those of before, and assignments differ only where one was executed. So a context can be
used again after an error. -/

namespace TemplateEngine

/-- Where the second dictionary differs from the first, it has a value that is allowed there. -/
def Dict.ChangedBy {α : Type} (allowed : String → α → Prop) (before after : Dict α) : Prop :=
  ∀ name, find? after name = find? before name ∨
    ∃ value, allowed name value ∧ find? after name = some value

namespace Dict.ChangedBy

variable {α : Type} {allowed allowed' : String → α → Prop} {first second third : Dict α}

theorem refl (dict : Dict α) : ChangedBy allowed dict dict := fun _ => .inl rfl

theorem insert {name : String} {value : α} (h : allowed name value) (dict : Dict α) :
    ChangedBy allowed dict (Dict.insert name value dict) := by
  intro other
  by_cases heq : other = name
  · subst heq
    exact .inr ⟨value, h, find?_insert_self other value dict⟩
  · exact .inl (find?_insert_of_ne heq value dict)

theorem trans (h : ChangedBy allowed first second) (h' : ChangedBy allowed second third) :
    ChangedBy allowed first third := by
  intro name
  rcases h' name with heq | hvalue
  · rw [heq]
    exact h name
  · exact .inr hvalue

theorem mono (h : ChangedBy allowed first second)
    (himp : ∀ name value, allowed name value → allowed' name value) :
    ChangedBy allowed' first second := by
  intro name
  rcases h name with heq | ⟨value, hvalue, hfind⟩
  · exact .inl heq
  · exact .inr ⟨value, himp name value hvalue, hfind⟩

theorem isSome_find? (h : ChangedBy allowed first second) {name : String}
    (hname : (find? first name).isSome) : (find? second name).isSome := by
  rcases h name with heq | ⟨value, -, hfind⟩
  · rw [heq]
    exact hname
  · rw [hfind]
    rfl

end Dict.ChangedBy

namespace Action

variable {σ : Type}

/-- Where there is room for `depth` includes and overrides, the action makes no assignments but
those that are allowed in the context and the sink that it starts with. -/
def ChangesOnly (depth : Nat) (allowed : Context → σ → String → Value → Prop) (action : Action σ) :
    Prop :=
  ∀ context out, context.HasRoom depth →
    Dict.ChangedBy (allowed context out) context.assigned (action context out).context.assigned

namespace ChangesOnly

variable {depth : Nat} {allowed allowed' first' second' : Context → σ → String → Value → Prop}

theorem mono {action : Action σ} (h : ChangesOnly depth allowed action)
    (himp : ∀ {context : Context} {out : σ} {name : String} {value : Value},
      allowed context out name value → allowed' context out name value) :
    ChangesOnly depth allowed' action :=
  fun context out hroom => (h context out hroom).mono fun _ _ => himp

theorem skip : ChangesOnly depth allowed (skip : Action σ) := fun _ _ _ => .refl _

theorem write (put : σ → Except String Unit × σ) : ChangesOnly depth allowed (write put) :=
  fun _ _ _ => .refl _

theorem withValue {α : Type} {compute : Context → Except RenderError α} {next : α → Action σ}
    (h : ∀ context out value, context.HasRoom depth → compute context = .ok value →
      Dict.ChangedBy (allowed context out) context.assigned
        (next value context out).context.assigned) :
    ChangesOnly depth allowed (withValue compute next) := by
  intro context out hroom
  unfold Action.withValue
  split
  · next value hvalue => exact h context out value hroom hvalue
  · exact .refl _

theorem inFrame {action : Action σ} (frame : Dict Value) (h : ChangesOnly depth allowed action) :
    ChangesOnly depth (fun context out => allowed (context.pushFrame frame) out)
      (inFrame frame action) := fun context out hroom =>
  h (context.pushFrame frame) out
    (Context.isLocal_hasRoom depth context context.assigned (frame :: context.frames) hroom)

theorem andThen {first second : Action σ} (hkeeps : first.Keeps)
    (hfirst : ChangesOnly depth first' first) (hsecond : ChangesOnly depth second' second)
    (himp : ∀ {context : Context} {out : σ} {name : String} {value : Value},
      first' context out name value → allowed context out name value)
    (himp' : ∀ {context context' : Context} {out out' : σ} {name : String} {value : Value},
      first context out = ⟨.ok (), context', out'⟩ → second' context' out' name value →
      allowed context out name value) :
    ChangesOnly depth allowed (first.andThen second) := by
  intro context out hroom
  have hchanged := hfirst.mono himp context out hroom
  have hafter : (first context out).context.HasRoom depth := by
    rw [hkeeps]
    exact Context.isLocal_hasRoom depth context _ _ hroom
  unfold Action.andThen
  cases hrun : first context out with
  | mk result context' out' =>
    rw [hrun] at hchanged hafter
    cases result with
    | error error => exact hchanged
    | ok _ => exact hchanged.trans ((hsecond context' out' hafter).mono fun _ _ => himp' hrun)

end ChangesOnly

end Action

section

variable {σ : Type} {sink : Sink σ} {depth : Nat}

open TemplateEngine.Action (ChangesOnly)

/-- The iterations of a loop that are still to do assign only what the loop assigns. -/
theorem changesOnly_iterate (item : String) (iterable : Expr) {body : List Node}
    {values : List Value}
    (hbody : ChangesOnly depth (Executes sink body) (evaluateNodes sink (evaluateAll sink) body))
    (todo done : List (Value × Nat)) (hsplit : values.zipIdx = done ++ todo) :
    ChangesOnly depth
      (fun context' out' name assigned => ∀ {context : Context} {out : σ} {value : Value},
        context.eval iterable = .ok value → value.items item = .ok values →
        iterate item values.length (evaluateNodes sink (evaluateAll sink) body) done context out =
          ⟨.ok (), context', out'⟩ →
        Executes sink [.statement (.loop item iterable body)] context out name assigned)
      (iterate item values.length (evaluateNodes sink (evaluateAll sink) body) todo) := by
  induction todo generalizing done with
  | nil => exact .skip
  | cons entry todo ih =>
    obtain ⟨value', index⟩ := entry
    have hsplit' : values.zipIdx = (done ++ [(value', index)]) ++ todo := by
      rw [hsplit, List.append_assoc]
      rfl
    have hkeeps := Action.Keeps.inFrame (loopFrame item value' index values.length)
      (evaluateNodes_keeps sink (evaluateAll_keeps sink) body)
    refine .andThen hkeeps (hbody.inFrame _) (ih _ hsplit') ?_ ?_
    · intro context' out' name assigned hassigned context out value hvalue hitems hdone
      exact hassigned.inside (.iteration hvalue hitems hsplit hdone)
    · intro context' context'' out' out'' name assigned hrun hrest context out value hvalue hitems
        hdone
      refine hrest hvalue hitems ?_
      unfold iterate at hdone ⊢
      rw [List.map_append, Action.sequence_append, Action.andThen_of_ok hdone]
      exact Action.andThen_of_ok hrun

/-- What holds of the includes and overrides that there is room for. -/
def AssignsInside (sink : Sink σ) (depth : Nat) : Prop :=
  ∀ less < depth, ∀ nodes, ChangesOnly less (Executes sink nodes) (evaluateAll sink nodes)

/-- A node that enters an include or an override assigns only what is executed there. -/
theorem AssignsInside.changedBy (h : AssignsInside sink depth) {node : Node} {nodes : List Node}
    {context : Context} {out : σ} (hroom : context.HasRoom depth)
    {enter : Context → Except RenderError Context} {leave : Context → Context}
    (hleave : ∀ inner : Context, (leave inner).assigned = inner.assigned)
    (henters : ∀ inner, enter context = .ok inner → context.Enters inner ∧
      inner.assigned = context.assigned ∧ node.Continues sink context out nodes inner out) :
    Dict.ChangedBy (Executes sink [node] context out) context.assigned
      (Action.within enter leave (evaluateAll sink nodes) context out).context.assigned := by
  unfold Action.within
  cases henter : enter context with
  | error error => exact .refl _
  | ok inner =>
    obtain ⟨henters, hassigned, hinner⟩ := henters inner henter
    obtain ⟨hguarded, hless⟩ := hroom.1.enters henters
    have hchanged := h inner.room (Nat.lt_of_lt_of_le hless hroom.2) nodes inner out
      ⟨hguarded, Nat.le_refl _⟩
    dsimp only
    rw [hleave, ← hassigned]
    exact hchanged.mono fun _ _ hexecutes => hexecutes.inside hinner

theorem changesOnly_inclusion (h : AssignsInside sink depth) (name : String) :
    ChangesOnly depth (Executes sink [.inclusion name])
      (Action.includeTemplate (evaluateAll sink) name) := by
  refine .withValue fun context out template hroom htemplate => ?_
  have hfind : context.store.find? name = some template := by
    cases hfind : context.store.find? name with
    | none =>
      rw [hfind] at htemplate
      cases htemplate
    | some found =>
      rw [hfind] at htemplate
      exact congrArg some (Except.ok.inj htemplate)
  refine h.changedBy hroom (fun _ => rfl) fun inner henter => ?_
  obtain ⟨-, -, hinner⟩ := Context.enterInclude_eq_ok henter
  exact ⟨⟨name, .inl henter⟩, by rw [hinner], .inclusion hfind henter⟩

theorem changesOnly_yield (h : AssignsInside sink depth) (name : String) {default : List Node}
    (hdefault : ChangesOnly depth (Executes sink default)
      (evaluateNodes sink (evaluateAll sink) default)) :
    ChangesOnly depth (Executes sink [.statement (.yield name default)])
      (Action.expandYield (evaluateAll sink) name
        (evaluateNodes sink (evaluateAll sink) default)) := by
  intro context out hroom
  unfold Action.expandYield
  cases hblock : context.block? name with
  | none =>
    exact (hdefault context out hroom).mono fun _ _ hexecutes => hexecutes.inside (.default hblock)
  | some nodes =>
    refine h.changedBy hroom (fun _ => rfl) fun inner henter => ?_
    obtain ⟨-, hinner⟩ := Context.enterYield_eq_ok henter
    exact ⟨⟨name, .inr ⟨⟨nodes, hblock⟩, henter⟩⟩, by rw [hinner], .override hblock henter⟩

mutual

theorem evaluateNode_changesOnly (h : AssignsInside sink depth) : ∀ node : Node,
    ChangesOnly depth (Executes sink [node]) (evaluateNode sink (evaluateAll sink) node)
  | .source children => (evaluateNodes_changesOnly h children).mono fun hexecutes =>
    hexecutes.inside .source
  | .content _ => .write _
  | .comment _ => .skip
  | .display _ => .withValue fun context out _ hroom _ =>
    ChangesOnly.write _ context out hroom
  | .statement statement => evaluateStatement_changesOnly h statement
  | .inclusion name => changesOnly_inclusion h name
  | .block _ _ => .skip

theorem evaluateNodes_changesOnly (h : AssignsInside sink depth) : ∀ nodes : List Node,
    ChangesOnly depth (Executes sink nodes) (evaluateNodes sink (evaluateAll sink) nodes)
  | [] => .skip
  | node :: nodes => by
    have hkeeps := evaluateNodes_keeps sink (evaluateAll_keeps sink) [node]
    rw [evaluateNodes_singleton] at hkeeps
    exact .andThen hkeeps (evaluateNode_changesOnly h node) (evaluateNodes_changesOnly h nodes)
      Executes.append Executes.cons

theorem evaluateStatement_changesOnly (h : AssignsInside sink depth) : ∀ statement : Statement,
    ChangesOnly depth (Executes sink [.statement statement])
      (evaluateStatement sink (evaluateAll sink) statement)
  | .cond cond => (evaluateCond_changesOnly h cond).mono fun ⟨_, hbranch, hexecutes⟩ =>
    hexecutes.inside (.branch hbranch)
  | .yield name default => changesOnly_yield h name (evaluateNodes_changesOnly h default)
  | .loop item iterable body => by
    have hbody := evaluateNodes_changesOnly h body
    refine .withValue fun context out values hroom hvalues => ?_
    obtain ⟨value, hvalue, hitems⟩ := exists_of_bind_eq_ok hvalues
    have hloop := changesOnly_iterate item iterable hbody values.zipIdx [] rfl context out hroom
    exact hloop.mono fun _ _ hexecutes => hexecutes hvalue hitems rfl
  | .assign _ _ => .withValue fun context _ _ _ heval =>
    .insert (.assign heval) context.assigned

theorem evaluateCond_changesOnly (h : AssignsInside sink depth) : ∀ cond : Cond,
    ChangesOnly depth
      (fun context out name value => ∃ branch, cond.Chooses context branch ∧
        Executes sink branch context out name value)
      (evaluateCond sink (evaluateAll sink) cond)
  | .mk test consequence alternative => by
    have hconsequence := evaluateNodes_changesOnly h consequence
    have halternative := evaluateAlternative_changesOnly h alternative
    refine .withValue fun context out value hroom htest => ?_
    cases htruthy : value.isTruthy with
    | true => exact (hconsequence context out hroom).mono fun _ _ hexecutes =>
        ⟨consequence, .consequence htest htruthy, hexecutes⟩
    | false => exact (halternative context out hroom).mono fun _ _ ⟨branch, hbranch, hexecutes⟩ =>
        ⟨branch, .alternative htest htruthy hbranch, hexecutes⟩

theorem evaluateAlternative_changesOnly (h : AssignsInside sink depth) :
    ∀ alternative : CondAlternative,
      ChangesOnly depth
        (fun context out name value => ∃ branch, alternative.Chooses context branch ∧
          Executes sink branch context out name value)
        (evaluateAlternative sink (evaluateAll sink) alternative)
  | .nothing => .skip
  | .elseIf cond => (evaluateCond_changesOnly h cond).mono fun ⟨branch, hbranch, hexecutes⟩ =>
    ⟨branch, .elseIf hbranch, hexecutes⟩
  | .otherwise body => (evaluateNodes_changesOnly h body).mono fun hexecutes =>
    ⟨body, .otherwise, hexecutes⟩

end

/-- Evaluation assigns only what is executed, as deep as includes and overrides may nest. -/
theorem evaluateAll_changesOnly (sink : Sink σ) (depth : Nat) (nodes : List Node) :
    ChangesOnly depth (Executes sink nodes) (evaluateAll sink nodes) := by
  induction depth using Nat.strongRecOn generalizing nodes with
  | ind depth ih =>
    intro context out hroom
    rw [isRecursive_evaluateAll sink nodes context out hroom.1]
    exact evaluateNodes_changesOnly ih nodes context out hroom

end

namespace Context

/-- The context that a host starts with. -/
def initial (entry : String) (data : Dict Value) (blocks : BlockMap) (registry : Registry)
    (store : Store) : Context :=
  { data, blocks, registry, store, entry }

/-- What evaluations and assignments have made of a context, however the evaluations ended. -/
inductive Used (start : Context) : Context → Prop
  | start : Used start start
  | assign {context : Context} (name : String) (value : Value) (h : Used start context) :
      Used start (context.assign name value)
  | evaluate {context : Context} {σ : Type} (sink : Sink σ) (node : Node) (out : σ)
      (h : Used start context) : Used start (evaluate sink node context out).context

variable {σ : Type} {entry : String} {data : Dict Value} {blocks : BlockMap} {registry : Registry}
  {store : Store} {context : Context}

theorem evaluate_keeps (sink : Sink σ) (node : Node) (context : Context) (out : σ) :
    (evaluate sink node context out).context =
      { context with assigned := (evaluate sink node context out).context.assigned } :=
  evaluateWithin_keeps sink context.room [node] context out

theorem Used.eq_initial (h : Used (initial entry data blocks registry store) context) :
    context = { initial entry data blocks registry store with assigned := context.assigned } := by
  induction h with
  | start => rfl
  | assign name value _ ih =>
    rw [ih]
    rfl
  | evaluate sink node out _ ih =>
    rw [evaluate_keeps, ih]

theorem Used.hasRoom (h : Used (initial entry data blocks registry store) context) :
    context.HasRoom context.room := by
  refine ⟨?_, Nat.le_refl _⟩
  rw [h.eq_initial]
  exact ⟨List.nodup_nil, nofun⟩

/-- What is left after the evaluation of nodes is what was entered before it. -/
theorem evaluateWithin_leaves (sink : Sink σ) (depth : Nat) (nodes : List Node) (context : Context)
    (out : σ) :
    (∀ frame, (evaluateWithin sink depth nodes (context.pushFrame frame) out).context.frames =
      frame :: context.frames) ∧
    (∀ name inner, context.enterInclude name = .ok inner →
      (evaluateWithin sink depth nodes inner out).context.includeChain =
        context.includeChain ++ [name]) ∧
    ∀ name inner, context.enterYield name = .ok inner →
      (evaluateWithin sink depth nodes inner out).context.yields = name :: context.yields := by
  refine ⟨fun frame => ?_, fun name inner henter => ?_, fun name inner henter => ?_⟩
  · rw [evaluateWithin_keeps]
    rfl
  · obtain ⟨-, -, rfl⟩ := enterInclude_eq_ok henter
    rw [evaluateWithin_keeps]
    simp only [includeChain, List.reverse_cons, List.cons_append]
  · obtain ⟨-, rfl⟩ := enterYield_eq_ok henter
    rw [evaluateWithin_keeps]

/-- However the evaluation of a node ends, it leaves includes, overrides and frames as they were,
loses no assignment and changes only those that it executed. What is left of the context is that of
the host with other assignments. Everything that is left on the way was entered before, so that
leaving never meets an empty stack. -/
theorem evaluate_restores (h : Used (initial entry data blocks registry store) context)
    (sink : Sink σ) (node : Node) (out : σ) :
    let after := (evaluate sink node context out).context
    (after.includeChain = context.includeChain ∧ after.yields = context.yields ∧
      after.frames = context.frames) ∧
    (∀ name, (Dict.find? context.assigned name).isSome →
      (Dict.find? after.assigned name).isSome) ∧
    (∀ name, Dict.find? after.assigned name ≠ Dict.find? context.assigned name →
      ∃ value, Executes sink [node] context out name value ∧
        Dict.find? after.assigned name = some value) ∧
    after = { initial entry data blocks registry store with assigned := after.assigned } ∧
    ∀ (depth : Nat) (nodes : List Node) (place : Context) (written : σ),
      (∀ frame, (evaluateWithin sink depth nodes (place.pushFrame frame) written).context.frames =
        frame :: place.frames) ∧
      (∀ name inner, place.enterInclude name = .ok inner →
        (evaluateWithin sink depth nodes inner written).context.includeChain =
          place.includeChain ++ [name]) ∧
      ∀ name inner, place.enterYield name = .ok inner →
        (evaluateWithin sink depth nodes inner written).context.yields = name :: place.yields := by
  intro after
  have hkeeps : after = { context with assigned := after.assigned } :=
    evaluate_keeps sink node context out
  have hchanged : Dict.ChangedBy (Executes sink [node] context out) context.assigned
      after.assigned := evaluateAll_changesOnly sink context.room [node] context out h.hasRoom
  refine ⟨?_, fun _ => hchanged.isSome_find?, fun name hname => ?_,
    (h.evaluate sink node out).eq_initial, evaluateWithin_leaves sink⟩
  · rw [hkeeps]
    exact ⟨rfl, rfl, rfl⟩
  · exact (hchanged name).resolve_left hname

/-- A loop that assigns and then fails in what it includes. -/
def interrupted : Node :=
  .statement (.loop "item" (.var "items")
    [.statement (.assign "seen" (.var "item")), .inclusion "row"])

/-- The host of the loop, with one item and a row that has an unknown variable. -/
def host : Context :=
  initial "page" [("items", .array [.string "a"])] [] {}
    { templates := [("row", ⟨"row", "1", .display (.var "missing"), []⟩)] }

/-- The loop leaves its assignment and nothing else. -/
theorem evaluate_restores_interrupted :
    Used host host ∧
      (evaluate Sink.text interrupted host "").result = .error (.unknownVariable "missing") ∧
      (evaluate Sink.text interrupted host "").context.frames = [] ∧
      ∃ value, Executes Sink.text [interrupted] host "" "seen" value := by
  have hseen : Dict.find? (evaluate Sink.text interrupted host "").context.assigned "seen" =
      some (.string "a") := rfl
  obtain ⟨⟨-, -, hframes⟩, -, hexecutes, -⟩ :=
    evaluate_restores (.start : Used host host) Sink.text interrupted ""
  obtain ⟨value, hvalue, -⟩ := hexecutes "seen" (by rw [hseen]; exact nofun)
  exact ⟨.start, rfl, hframes, value, hvalue⟩

end Context

end TemplateEngine
