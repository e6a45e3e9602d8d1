import Mathlib.Data.List.Induction
import TemplateEngine.Proofs.Render.Compositional

/-! # What a render writes

A sink that never fails decides nothing about a render: it is handed the same texts and values as
every other. -/

namespace TemplateEngine

/-- One write of a render: a text between tags, or the value of an expression. -/
inductive Write where
  | text (text : String)
  | value (value : Value)

def Write.display : Write → String
  | .text written => written
  | .value written => written.display

namespace Sink

variable {σ : Type}

def put (sink : Sink σ) : Write → σ → Except String Unit × σ
  | .text text => sink.writeText text
  | .value value => sink.write value

def NeverFails (sink : Sink σ) : Prop :=
  ∀ write state, (sink.put write state).1 = .ok ()

/-- The state of a sink after writes in turn. -/
def after (sink : Sink σ) (writes : List Write) (out : σ) : σ :=
  writes.foldl (fun state write => (sink.put write state).2) out

def log : Sink (List Write) where
  write value written := (.ok (), written ++ [.value value])
  writeText text written := (.ok (), written ++ [.text text])

theorem log_put (write : Write) (written : List Write) :
    log.put write written = (.ok (), written ++ [write]) := by
  cases write <;> rfl

theorem after_append_singleton (sink : Sink σ) (writes : List Write) (write : Write) (out : σ) :
    sink.after (writes ++ [write]) out = (sink.put write (sink.after writes out)).2 := by
  rw [after, after, List.foldl_append]
  rfl

theorem neverFails_text : text.NeverFails := fun write _ => by cases write <;> rfl

theorem after_text (writes : List Write) (written : String) :
    text.after writes written = written ++ String.join (writes.map Write.display) := by
  induction writes using List.reverseRecOn with
  | nil => simp [after]
  | append_singleton writes write ih =>
    have hput : (text.put write (text.after writes written)).2 =
        text.after writes written ++ write.display := by cases write <;> rfl
    rw [after_append_singleton, hput, ih]
    simp [String.append_assoc]

end Sink

section

variable {σ τ : Type}

/-- The outcomes differ in nothing but their sinks, which are related. -/
structure Outcome.Matches (Rel : σ → τ → Prop) (outcome : Outcome σ) (outcome' : Outcome τ) :
    Prop where
  result : outcome'.result = outcome.result
  context : outcome'.context = outcome.context
  sink : Rel outcome.sink outcome'.sink

/-- From related sinks both actions come to the same outcome, with related sinks. -/
def Action.Matches (Rel : σ → τ → Prop) (action : Action σ) (action' : Action τ) : Prop :=
  ∀ context out out', Rel out out' → (action context out).Matches Rel (action' context out')

/-- Each write succeeds in both sinks or fails in both with the same reason, and leaves them
related. -/
def Sink.Matches (Rel : σ → τ → Prop) (sink : Sink σ) (sink' : Sink τ) : Prop :=
  ∀ write out out', Rel out out' →
    (sink'.put write out').1 = (sink.put write out).1 ∧
      Rel (sink.put write out).2 (sink'.put write out').2

namespace Action.Matches

variable {Rel : σ → τ → Prop}

theorem skip : Matches Rel skip skip := fun _ _ _ h => ⟨rfl, rfl, h⟩

theorem fail (error : RenderError) : Matches Rel (fail error) (fail error) :=
  fun _ _ _ h => ⟨rfl, rfl, h⟩

theorem assignValue (name : String) (value : Value) :
    Matches Rel (assignValue name value) (assignValue name value) := fun _ _ _ h => ⟨rfl, rfl, h⟩

theorem put {sink : Sink σ} {sink' : Sink τ} (hsink : sink.Matches Rel sink') (write : Write) :
    Matches Rel (Action.write (sink.put write)) (Action.write (sink'.put write)) := by
  intro context out out' h
  obtain ⟨hresult, hstate⟩ := hsink write out out' h
  have hmapped : ((sink'.put write out').1.mapError .writeFailed : Except RenderError Unit) =
      (sink.put write out).1.mapError .writeFailed := by rw [hresult]
  exact ⟨hmapped, rfl, hstate⟩

theorem andThen {first second : Action σ} {first' second' : Action τ}
    (hfirst : Matches Rel first first') (hsecond : Matches Rel second second') :
    Matches Rel (first.andThen second) (first'.andThen second') := by
  intro context out out' h
  have hboth := hfirst context out out' h
  unfold Action.andThen
  dsimp only
  rw [hboth.result]
  split
  · rw [hboth.context]
    exact hsecond _ _ _ hboth.sink
  · exact hboth

theorem withValue {α : Type} {compute : Context → Except RenderError α} {next : α → Action σ}
    {next' : α → Action τ} (h : ∀ value, Matches Rel (next value) (next' value)) :
    Matches Rel (withValue compute next) (withValue compute next') := by
  intro context out out' hout
  unfold Action.withValue
  split
  · exact h _ context out out' hout
  · exact fail _ context out out' hout

theorem within (enter : Context → Except RenderError Context) (leave : Context → Context)
    {action : Action σ} {action' : Action τ} (h : Matches Rel action action') :
    Matches Rel (within enter leave action) (within enter leave action') := by
  intro context out out' hout
  unfold Action.within
  split
  · next inner henter =>
    have hinner := h inner out out' hout
    exact ⟨hinner.result, congrArg leave hinner.context, hinner.sink⟩
  · exact fail _ context out out' hout

variable {expand : List Node → Action σ} {expand' : List Node → Action τ}

theorem expandYield (h : ∀ nodes, Matches Rel (expand nodes) (expand' nodes)) (name : String)
    {default : Action σ} {default' : Action τ} (hdefault : Matches Rel default default') :
    Matches Rel (expandYield expand name default) (expandYield expand' name default') := by
  intro context out out' hout
  unfold Action.expandYield
  split
  · next nodes hblock => exact within _ _ (h nodes) context out out' hout
  · exact hdefault context out out' hout

theorem compositional {sink : Sink σ} {sink' : Sink τ} (hsink : sink.Matches Rel sink')
    (h : ∀ nodes, Matches Rel (expand nodes) (expand' nodes)) :
    Compositional {} sink sink' expand expand' (Matches Rel) where
  skip := skip
  andThen := andThen
  content text := put hsink (.text text)
  display _ := withValue fun value => put hsink (.value value)
  inclusion _ := withValue fun _ => within _ _ (h _)
  yield _ hdefault := expandYield h _ hdefault
  loop item _ hbody := withValue fun values =>
    forEach_related _ skip andThen item values fun _ => within _ _ hbody
  assign name _ := withValue (assignValue name)
  branch _ hconsequence halternative := withValue fun value => by split <;> assumption

end Action.Matches

variable {Rel : σ → τ → Prop} {sink : Sink σ} {sink' : Sink τ}

theorem evaluateWithin_matches (hsink : sink.Matches Rel sink') (depth : Nat)
    (nodes : List Node) :
    Action.Matches Rel (evaluateWithin sink depth nodes) (evaluateWithin sink' depth nodes) := by
  induction depth generalizing nodes with
  | zero =>
    exact (Action.Matches.compositional hsink fun _ => .fail .endless).evaluateNodes
      (Node.allInScope_all nodes)
  | succ depth ih =>
    exact (Action.Matches.compositional hsink ih).evaluateNodes (Node.allInScope_all nodes)

namespace Store

/-- A render does not see what its sink is, only which writes fail. -/
theorem render_matches (hsink : sink.Matches Rel sink') (store : Store) (registry : Registry)
    (name : String) (data : Dict Value) {out : σ} {out' : τ} (h : Rel out out') :
    (store.render registry sink' name data out').1 =
        (store.render registry sink name data out).1 ∧
      Rel (store.render registry sink name data out).2
        (store.render registry sink' name data out').2 := by
  unfold render
  split
  · exact ⟨rfl, h⟩
  · next template _ =>
    let context : Context := { data, blocks := template.blocks, registry, store, entry := name }
    have hmatches :=
      evaluateWithin_matches hsink context.room [template.root] context out out' h
    exact ⟨hmatches.result, hmatches.sink⟩

end Store

end

namespace Store

variable {σ : Type} (store : Store) (registry : Registry) (name : String) (data : Dict Value)

/-- How a render ends where no write fails, and all that it writes. -/
def logged : Except RenderError Unit × List Write :=
  store.render registry .log name data []

/-- A sink that never fails takes the writes in the log. -/
theorem render_eq_logged {sink : Sink σ} (hsink : sink.NeverFails) (out : σ) :
    store.render registry sink name data out =
      ((store.logged registry name data).1,
        sink.after (store.logged registry name data).2 out) := by
  have hmatches : Sink.log.Matches (fun written state => state = sink.after written out) sink := by
    rintro write written _ rfl
    rw [Sink.log_put, hsink write]
    exact ⟨rfl, (sink.after_append_singleton written write out).symm⟩
  obtain ⟨hresult, hstate⟩ :=
    store.render_matches hmatches registry name data (Eq.refl (sink.after [] out))
  exact Prod.ext hresult hstate

end Store

end TemplateEngine
