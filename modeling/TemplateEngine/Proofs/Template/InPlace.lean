import TemplateEngine.Engine
import TemplateEngine.Proofs.Except

/-! # Registration in place

A host changes its engine in place. Each step is written here with the variable that it changes, and
a step that fails leaves all variables as they were reached. A registration either takes place or
changes nothing, since the blocks are recorded in a map of their own, the template is scanned before
the store knows it, and the store is changed last. -/

namespace TemplateEngine

/-- Steps that change a state. One that fails ends them, and the state stays as it was reached. -/
abbrev Steps (ε σ α : Type) := ExceptT ε (StateM σ) α

namespace Steps

variable {ε δ σ τ α : Type}

/-- Steps on a part of the state, which stays as it was reached. -/
def on (part : σ → τ) (put : τ → σ → σ) (steps : Steps ε τ Unit) : Steps ε σ Unit :=
  ExceptT.mk (StateT.mk fun state =>
    let (result, reached) := steps.run.run (part state)
    (result, put reached state))

/-- Steps with a variable of their own, which is gone after them. -/
def withVariable (first : τ) (steps : Steps ε (σ × τ) Unit) : Steps ε σ Unit :=
  ExceptT.mk (StateT.mk fun state =>
    let (result, reached) := steps.run.run (state, first)
    (result, reached.1))

def onVariable (steps : Steps ε τ Unit) : Steps ε (σ × τ) Unit :=
  steps.on Prod.snd fun reached state => (state.1, reached)

/-- The result and the state after a computation that gives the next state or fails. -/
def settled (state : σ) : Except ε σ → Except ε Unit × σ
  | .ok changed => (.ok (), changed)
  | .error error => (.error error, state)

/-- The steps end as a computation does: in the state that it gives, or with its error. -/
def Computes (steps : Steps ε σ Unit) (state : σ) (x : Except ε σ) : Prop :=
  ∃ reached, steps.run.run state = settled reached x

/-- The steps bring about the state that is computed, or they fail and leave the state. -/
def Transacts (steps : Steps ε σ Unit) (compute : σ → Except ε σ) : Prop :=
  ∀ state, steps.run.run state = settled state (compute state)

variable {steps : Steps ε τ Unit}

theorem Computes.bind {next : Steps ε τ Unit} {state : τ} {x : Except ε τ}
    {compute : τ → Except ε τ} (h : steps.Computes state x)
    (hnext : ∀ between, next.Computes between (compute between)) :
    Computes (steps >>= fun _ => next) state (x >>= compute) := by
  obtain ⟨reached, hsteps⟩ := h
  cases x with
  | ok between =>
    obtain ⟨last, hlast⟩ := hnext between
    refine ⟨last, ?_⟩
    rw [run_bind, hsteps]
    exact hlast
  | error error =>
    refine ⟨reached, ?_⟩
    rw [run_bind, hsteps]
    rfl

theorem Transacts.computes {compute : τ → Except ε τ} (h : steps.Transacts compute)
    (state : τ) : steps.Computes state (compute state) :=
  ⟨state, h state⟩

theorem Transacts.congr {compute compute' : τ → Except ε τ} (h : steps.Transacts compute)
    (hsame : ∀ state, compute state = compute' state) : steps.Transacts compute' := by
  intro state
  rw [← hsame state]
  exact h state

theorem run_on (part : σ → τ) (put : τ → σ → σ) (state : σ) :
    (steps.on part put).run.run state =
      ((steps.run.run (part state)).1, put (steps.run.run (part state)).2 state) := rfl

/-- If a variable is completed first and the state is changed by it in one step, a failure leaves
the state, whatever the variable had reached. -/
theorem transacts_withVariable {first : τ} {x : Except ε τ} (h : steps.Computes first x)
    (assign : τ → σ → σ) :
    Transacts (withVariable first do
        steps.onVariable
        modify fun (state, last) => (assign last state, last))
      fun state => x.map (assign · state) := by
  intro state
  obtain ⟨reached, hsteps⟩ := h
  have hvariable : (steps.onVariable : Steps ε (σ × τ) Unit).run.run (state, first) =
      ((settled reached x).1, (state, (settled reached x).2)) := by
    rw [onVariable, run_on, hsteps]
  have hrun : ∀ more : Steps ε (σ × τ) Unit,
      (withVariable first more).run.run state =
        ((more.run.run (state, first)).1, (more.run.run (state, first)).2.1) := fun _ => rfl
  rw [hrun, run_bind, hvariable]
  cases x <;> rfl

theorem Transacts.on {compute : τ → Except ε τ} (h : steps.Transacts compute) (part : σ → τ)
    (put : τ → σ → σ) (hput : ∀ state, put (part state) state = state) :
    (steps.on part put).Transacts fun state => (compute (part state)).map (put · state) := by
  intro state
  rw [run_on, h (part state)]
  dsimp only
  cases compute (part state) with
  | ok changed => rfl
  | error error => exact congrArg (Prod.mk (Except.error error)) (hput state)

theorem Transacts.adapt {compute : τ → Except ε τ} (h : steps.Transacts compute) (f : ε → δ) :
    Transacts (ExceptT.adapt f steps) fun state => (compute state).mapError f := by
  intro state
  have hadapt : (ExceptT.adapt f steps).run.run state =
      ((steps.run.run state).1.mapError f, (steps.run.run state).2) := rfl
  rw [hadapt, h state]
  dsimp only
  cases compute state <;> rfl

/-- A computation that knows nothing of the state may come first. -/
theorem transacts_bind {x : Except ε α} {next : α → Steps ε σ Unit}
    {compute : α → σ → Except ε σ} (h : ∀ a, (next a).Transacts (compute a)) :
    Transacts (liftM x >>= next) fun state => x >>= fun a => compute a state := by
  intro state
  cases x with
  | ok a => exact h a state
  | error error => rfl

end Steps

namespace BlockMap

mutual

/-- Records a block after the blocks directly inside it, as `record` does. -/
def recording (parent : Option String) : Node → Steps NodeError BlockMap Unit
  | .block name children =>
    if parent = some name then throw (.recursiveBlock name)
    else do
      recordingAll (some name) children
      modify (Dict.insert name children)
  | _ => pure ()

def recordingAll (parent : Option String) : List Node → Steps NodeError BlockMap Unit
  | [] => pure ()
  | node :: nodes => do
    recording parent node
    recordingAll parent nodes

end

mutual

theorem computes_recording (parent : Option String) (blocks : BlockMap) : ∀ node : Node,
    (recording parent node).Computes blocks (record parent blocks node)
  | .block name children => by
    rw [recording, record]
    split
    · exact ⟨blocks, rfl⟩
    · exact (computes_recordingAll (some name) blocks children).bind fun between => ⟨between, rfl⟩
  | .source _ => ⟨blocks, rfl⟩
  | .content _ => ⟨blocks, rfl⟩
  | .comment _ => ⟨blocks, rfl⟩
  | .display _ => ⟨blocks, rfl⟩
  | .statement _ => ⟨blocks, rfl⟩
  | .inclusion _ => ⟨blocks, rfl⟩

theorem computes_recordingAll (parent : Option String) (blocks : BlockMap) :
    ∀ nodes : List Node,
      (recordingAll parent nodes).Computes blocks (recordAll parent blocks nodes)
  | [] => ⟨blocks, rfl⟩
  | node :: nodes => (computes_recording parent blocks node).bind fun between =>
      computes_recordingAll parent between nodes

end

/-- A failure leaves what was recorded before it. -/
example : (recordingAll none [.block "a" [], .block "b" [.block "b" []]]).run.run [] =
    (.error (.recursiveBlock "b"), [("a", [])]) := rfl

end BlockMap

namespace Template

def scanning : Steps NodeError Template Unit := do
  let template ← get
  Steps.withVariable [] do
    (BlockMap.recordingAll none template.root.children).onVariable
    modify fun (template, recorded) => ({ template with blocks := recorded }, recorded)

theorem scanning_transacts : scanning.Transacts scanBlocks := by
  intro template
  have hrecord := BlockMap.computes_recordingAll none [] template.root.children
  have hscan := Steps.transacts_withVariable hrecord fun blocks (template : Template) =>
    { template with blocks }
  have hsame : scanBlocks template =
      (BlockMap.recordAll none [] template.root.children).map fun blocks =>
        { template with blocks } := by
    rw [scanBlocks]
    cases BlockMap.recordAll none [] template.root.children <;> rfl
  rw [hsame]
  exact hscan template

/-- How a scan in place ends, and the template that is there after it. -/
def rescan (template : Template) : Except NodeError Unit × Template :=
  scanning.run.run template

theorem rescan_eq (template : Template) :
    template.rescan = Steps.settled template template.scanBlocks :=
  scanning_transacts template

end Template

namespace Store

def adding (given : Template) : Steps NodeError Store Unit :=
  Steps.withVariable given do
    Template.scanning.onVariable
    modify fun (store, template) =>
      ({ store with templates := Dict.insert template.name template store.templates }, template)

theorem adding_transacts (given : Template) : (adding given).Transacts (·.add given) := by
  have hadd := Steps.transacts_withVariable (Template.scanning_transacts.computes given)
    fun template (store : Store) =>
      { store with templates := Dict.insert template.name template store.templates }
  refine hadd.congr fun store => ?_
  rw [add]
  cases given.scanBlocks <;> rfl

end Store

namespace Engine

def addingTemplate (given : Template) : Steps RenderError Engine Unit :=
  Steps.on Engine.store (fun store engine => { engine with store })
    (ExceptT.adapt .node (Store.adding given))

theorem addingTemplate_transacts (given : Template) :
    (addingTemplate given).Transacts (·.addTemplate given) := by
  have hadd := ((Store.adding_transacts given).adapt RenderError.node).on Engine.store
    (fun store engine => { engine with store }) fun _ => rfl
  refine hadd.congr fun engine => ?_
  rw [addTemplate]
  cases engine.store.add given <;> rfl

/-- Markup is read before the engine is touched. -/
def addingSource (name source : String) : Steps RenderError Engine Unit := do
  let root ← (Markup.parse source).mapError RenderError.markup
  addingTemplate (.ofMarkup name root)

theorem addingSource_transacts (name source : String) :
    (addingSource name source).Transacts (·.addSource name source) := by
  have hadd := Steps.transacts_bind (x := (Markup.parse source).mapError RenderError.markup)
    fun root => addingTemplate_transacts (.ofMarkup name root)
  refine hadd.congr fun engine => ?_
  rw [addSource]
  cases Markup.parse source <;> rfl

def addingDocument (text : String) : Steps RenderError Engine Unit := do
  let some document := Document.read? text | throw .document
  let template ← document.toTemplate.mapError RenderError.node
  addingTemplate template

theorem addingDocument_transacts (text : String) :
    (addingDocument text).Transacts (·.addDocument text) := by
  rw [addingDocument]
  cases hread : Document.read? text with
  | none =>
    intro engine
    dsimp only
    rw [addDocument, hread]
    rfl
  | some document =>
    have hadd := Steps.transacts_bind (x := document.toTemplate.mapError RenderError.node)
      addingTemplate_transacts
    refine hadd.congr fun engine => ?_
    rw [addDocument, hread]
    dsimp only
    cases document.toTemplate <;> rfl

end Engine

end TemplateEngine
