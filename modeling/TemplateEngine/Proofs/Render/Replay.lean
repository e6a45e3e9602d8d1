import TemplateEngine.Proofs.Render.Compositional

/-! # Renders and their sinks

A sink decides nothing about a render except where it stops. What a render writes to any sink is
what it would record, written value by value until the sink fails. -/

namespace TemplateEngine

namespace Sink

variable {τ : Type}

/-- Writes values in turn, up to the first that fails. -/
def replay (sink : Sink τ) : List Value → τ → Except String Unit × τ
  | [], out => (.ok (), out)
  | value :: values, out =>
    match sink.write value out with
    | (.ok (), out) => sink.replay values out
    | (.error reason, out) => (.error reason, out)

variable {sink : Sink τ}

theorem replay_append_of_ok {values others : List Value} {out out' : τ}
    (h : sink.replay values out = (.ok (), out')) :
    sink.replay (values ++ others) out = sink.replay others out' := by
  induction values generalizing out with
  | nil =>
    obtain rfl := congrArg Prod.snd h
    rfl
  | cons value values ih =>
    rw [List.cons_append, replay]
    rw [replay] at h
    split at h
    · exact ih h
    · cases h

theorem replay_append_of_error {values others : List Value} {out out' : τ} {reason : String}
    (h : sink.replay values out = (.error reason, out')) :
    sink.replay (values ++ others) out = (.error reason, out') := by
  induction values generalizing out with
  | nil => cases h
  | cons value values ih =>
    rw [List.cons_append, replay]
    rw [replay] at h
    split at h
    · exact ih h
    · exact h

theorem replay_singleton (sink : Sink τ) (value : Value) (out : τ) :
    sink.replay [value] out = sink.write value out := by
  rw [replay]
  split
  · next hwrite => rw [hwrite, replay]
  · next hwrite => rw [hwrite]

/-- Text is written as the string that it is. -/
def TextAsValues (sink : Sink τ) : Prop :=
  ∀ text, sink.writeText text = sink.write (.string text)

def recorder : Sink (List Value) :=
  values none

end Sink

section

variable {τ : Type}

/-- The outcome is the recorded one with the values written to the sink, or else the failure of the
sink to take one of them. -/
inductive Outcome.Replays (sink : Sink τ) (recorded : Outcome (List Value)) (out : τ) :
    Outcome τ → Prop
  | complete {out' : τ} (h : sink.replay recorded.sink out = (.ok (), out')) :
      Replays sink recorded out ⟨recorded.result, recorded.context, out'⟩
  | cut {reason : String} {context : Context} {out' : τ}
      (h : sink.replay recorded.sink out = (.error reason, out')) :
      Replays sink recorded out ⟨.error (.writeFailed reason), context, out'⟩

namespace Action

/-- The second action writes to the sink what the first records. -/
structure Replays (sink : Sink τ) (action : Action (List Value)) (action' : Action τ) : Prop where
  record : ∀ context written, action context written =
    { action context [] with sink := written ++ (action context []).sink }
  replays : ∀ context out, (action context []).Replays sink out (action' context out)

namespace Replays

variable {sink : Sink τ}

theorem skip : Replays sink skip skip where
  record context written := by
    unfold Action.skip
    rw [List.append_nil]
  replays _ _ := .complete rfl

theorem fail (error : RenderError) : Replays sink (fail error) (fail error) where
  record context written := by
    unfold Action.fail
    rw [List.append_nil]
  replays _ _ := .complete rfl

theorem assignValue (name : String) (value : Value) :
    Replays sink (assignValue name value) (assignValue name value) where
  record context written := by
    unfold Action.assignValue
    rw [List.append_nil]
  replays _ _ := .complete rfl

theorem write (value : Value) :
    Replays sink (write (Sink.recorder.write value)) (write (sink.write value)) where
  record _ _ := rfl
  replays context out := by
    have hreplay : sink.replay (Action.write (Sink.recorder.write value) context []).sink out =
        sink.write value out := sink.replay_singleton value out
    unfold Action.write
    cases hwrite : sink.write value out with
    | mk result out' =>
      rw [hwrite] at hreplay
      cases result with
      | ok _ => exact .complete hreplay
      | error reason => exact .cut hreplay

theorem andThen {first second : Action (List Value)} {first' second' : Action τ}
    (hfirst : Replays sink first first') (hsecond : Replays sink second second') :
    Replays sink (first.andThen second) (first'.andThen second') where
  record context written := by
    unfold Action.andThen
    rw [hfirst.record context written]
    dsimp only
    split
    · rw [hsecond.record _ (written ++ _), hsecond.record _ (first context []).sink,
        List.append_assoc]
    · rfl
  replays context out := by
    have hreplays := hfirst.replays context out
    unfold Action.andThen
    cases hrun : first context [] with
    | mk result context' written =>
      rw [hrun] at hreplays
      generalize first' context out = outcome at hreplays ⊢
      cases result with
      | error error =>
        cases hreplays with
        | complete h => exact .complete h
        | cut h => exact .cut h
      | ok _ =>
        dsimp only
        rw [hsecond.record context' written]
        cases hreplays with
        | cut h => exact .cut (Sink.replay_append_of_error h)
        | @complete out' h =>
          have hrest := hsecond.replays context' out'
          dsimp only
          generalize second' context' out' = outcome' at hrest ⊢
          cases hrest with
          | complete h' => exact .complete ((Sink.replay_append_of_ok h).trans h')
          | cut h' => exact .cut ((Sink.replay_append_of_ok h).trans h')

theorem withValue {α : Type} {compute : Context → Except RenderError α}
    {next : α → Action (List Value)} {next' : α → Action τ}
    (h : ∀ value, Replays sink (next value) (next' value)) :
    Replays sink (withValue compute next) (withValue compute next') where
  record context written := by
    unfold Action.withValue
    split
    · exact (h _).record context written
    · exact (fail _ : Replays sink _ _).record context written
  replays context out := by
    unfold Action.withValue
    split
    · exact (h _).replays context out
    · exact (fail _).replays context out

theorem within (enter : Context → Except RenderError Context) (leave : Context → Context)
    {action : Action (List Value)} {action' : Action τ} (h : Replays sink action action') :
    Replays sink (within enter leave action) (within enter leave action') where
  record context written := by
    unfold Action.within
    split
    · next inner henter => rw [h.record inner written]
    · exact (fail _ : Replays sink _ _).record context written
  replays context out := by
    unfold Action.within
    split
    · next inner henter =>
      have hreplays := h.replays inner out
      generalize action' inner out = outcome at hreplays ⊢
      cases hreplays with
      | complete h => exact .complete h
      | cut h => exact .cut h
    · exact (fail _).replays context out

section

variable {expand : List Node → Action (List Value)} {expand' : List Node → Action τ}

theorem expandYield (h : ∀ nodes, Replays sink (expand nodes) (expand' nodes)) (name : String)
    {default : Action (List Value)} {default' : Action τ}
    (hdefault : Replays sink default default') :
    Replays sink (expandYield expand name default) (expandYield expand' name default') where
  record context written := by
    unfold Action.expandYield
    split
    · next nodes hblock => exact (within _ _ (h nodes)).record context written
    · exact hdefault.record context written
  replays context out := by
    unfold Action.expandYield
    split
    · next nodes hblock => exact (within _ _ (h nodes)).replays context out
    · exact hdefault.replays context out

theorem compositional (hsink : sink.TextAsValues)
    (h : ∀ nodes, Replays sink (expand nodes) (expand' nodes)) :
    Compositional {} Sink.recorder sink expand expand' (Replays sink) where
  skip := skip
  andThen := andThen
  content text := by
    rw [hsink text]
    exact write (.string text)
  display _ := withValue write
  inclusion _ := withValue fun _ => within _ _ (h _)
  yield _ hdefault := expandYield h _ hdefault
  loop item _ hbody := withValue fun values =>
    forEach_related _ skip andThen item values fun _ => within _ _ hbody
  assign name _ := withValue (assignValue name)
  branch _ hconsequence halternative := withValue fun value => by split <;> assumption

end

end Replays

end Action

variable {sink : Sink τ}

theorem evaluateWithin_replays (hsink : sink.TextAsValues) (depth : Nat) (nodes : List Node) :
    Action.Replays sink (evaluateWithin .recorder depth nodes)
      (evaluateWithin sink depth nodes) := by
  induction depth generalizing nodes with
  | zero =>
    exact (Action.Replays.compositional hsink fun _ => .fail .endless).evaluateNodes
      (Node.allInScope_all nodes)
  | succ depth ih =>
    exact (Action.Replays.compositional hsink ih).evaluateNodes (Node.allInScope_all nodes)

/-- A render into a sink is the recorded one replayed: its result if the sink takes all that it
writes, and else the failure of the sink. -/
theorem Store.render_eq_replay (hsink : sink.TextAsValues) (store : Store) (registry : Registry)
    (name : String) (data : Dict Value) (out : τ) :
    store.render registry sink name data out =
      let (result, written) := store.render registry .recorder name data []
      match sink.replay written out with
      | (.ok (), out') => (result, out')
      | (.error reason, out') => (.error (.writeFailed reason), out') := by
  unfold render
  cases hfind : store.find? name with
  | none => rfl
  | some template =>
    let context : Context := { data, blocks := template.blocks, registry, store, entry := name }
    have hreplays := (evaluateWithin_replays hsink context.room [template.root]).replays context out
    dsimp only [evaluate]
    generalize evaluateWithin sink context.room [template.root] context out = outcome at hreplays ⊢
    cases hreplays with
    | complete h => rw [h]
    | cut h => rw [h]

end

end TemplateEngine
