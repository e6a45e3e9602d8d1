import TemplateEngine.Proofs.Template.Compile
import TemplateEngine.Proofs.Template.InPlace
import TemplateEngine.Proofs.Template.Registered

/-! # Sequences of registrations

An engine takes in some of the templates that it is given and refuses the others. What it holds in
the end is the last template taken in under each name, whatever came between. -/

namespace TemplateEngine

/-- A call that is to register a template. -/
inductive Registration where
  | source (name source : String)
  | document (text : String)
  | template (given : Template)

namespace Registration

/-- The name that a call is to register. A text that is no document has none. -/
def name? : Registration → Option String
  | .source name _ => some name
  | .document text => (Document.read? text).map Document.name
  | .template given => some given.name

/-- The template that a call gives to the store, which is to record its blocks. -/
inductive Gives : Registration → Template → Prop
  | source {name source : String} {root : Node} (hparse : Markup.parse source = .ok root) :
      Gives (.source name source) { name, version := "1", root }
  | document {text name version : String} {raw : RawNode} {root : Node}
      (hread : Document.read? text = some ⟨name, version, raw⟩)
      (hlower : raw.lowerNode = .ok root) : Gives (.document text) { name, version, root }
  | template (given : Template) : Gives (.template given) given

/-- The template that a call registers has the blocks of its tree. -/
def Registers (call : Registration) (template : Template) : Prop :=
  ∃ given, call.Gives given ∧ given.scanBlocks = .ok template

/-- The stages at which a call is refused. -/
inductive Refused : Registration → RenderError → Prop
  | parsing {name source : String} {error : MarkupError Position}
      (h : Markup.parse source = .error error) : Refused (.source name source) (.markup error)
  | reading {text : String} (h : Document.read? text = none) : Refused (.document text) .document
  | lowering {text : String} {document : Document} {error : NodeError}
      (hread : Document.read? text = some document)
      (h : document.root.lowerNode = .error error) : Refused (.document text) (.node error)
  | scanning {call : Registration} {given : Template} {error : NodeError}
      (hgives : call.Gives given) (h : given.scanBlocks = .error error) :
      Refused call (.node error)

variable {call : Registration} {template : Template}

theorem Registers.name?_eq (h : call.Registers template) : call.name? = some template.name := by
  obtain ⟨given, hgives, hscan⟩ := h
  have hname : template.name = given.name := by rw [(Template.scanBlocks_eq_ok hscan).2]
  rw [hname]
  cases hgives with
  | source _ => rfl
  | document hread _ => rw [name?, hread, Option.map_some]
  | template _ => rfl

theorem Registers.isScanned (h : call.Registers template) : template.IsScanned := by
  obtain ⟨given, -, hscan⟩ := h
  exact Template.isScanned_of_scanBlocks hscan

theorem Gives.registers_or_refused {given : Template} (h : call.Gives given) :
    (∃ template, call.Registers template) ∨ ∃ error, call.Refused error := by
  cases hscan : given.scanBlocks with
  | ok template => exact Or.inl ⟨template, given, h, hscan⟩
  | error error => exact Or.inr ⟨.node error, .scanning h hscan⟩

/-- Every call either registers a template or is refused at some stage. -/
theorem registers_or_refused (call : Registration) :
    (∃ template, call.Registers template) ∨ ∃ error, call.Refused error := by
  cases call with
  | template given => exact (Gives.template given).registers_or_refused
  | source name source =>
    cases hparse : Markup.parse source with
    | ok root => exact (Gives.source hparse).registers_or_refused
    | error error => exact Or.inr ⟨.markup error, .parsing hparse⟩
  | document text =>
    cases hread : Document.read? text with
    | none => exact Or.inr ⟨.document, .reading hread⟩
    | some document =>
      cases hlower : document.root.lowerNode with
      | ok root => exact (Gives.document hread hlower).registers_or_refused
      | error error => exact Or.inr ⟨.node error, .lowering hread hlower⟩

/-- The last of the calls that register a template under the name registers this one. -/
def LastRegisters (calls : List Registration) (name : String) (template : Template) : Prop :=
  ∃ before call after, calls = before ++ call :: after ∧ call.Registers template ∧
    template.name = name ∧ ∀ later ∈ after, ∀ other, later.Registers other → other.name ≠ name

def NoneRegisters (calls : List Registration) (name : String) : Prop :=
  ∀ call ∈ calls, ∀ template, call.Registers template → template.name ≠ name

variable {calls : List Registration} {name : String}

theorem LastRegisters.append_singleton (h : LastRegisters calls name template)
    (hcall : ∀ other, call.Registers other → other.name ≠ name) :
    LastRegisters (calls ++ [call]) name template := by
  obtain ⟨before, last, after, rfl, hregisters, hname, hafter⟩ := h
  refine ⟨before, last, after ++ [call], by simp, hregisters, hname, ?_⟩
  exact List.forall_mem_append.mpr ⟨hafter, List.forall_mem_singleton.mpr hcall⟩

theorem NoneRegisters.append_singleton (h : NoneRegisters calls name)
    (hcall : ∀ other, call.Registers other → other.name ≠ name) :
    NoneRegisters (calls ++ [call]) name :=
  List.forall_mem_append.mpr ⟨h, List.forall_mem_singleton.mpr hcall⟩

end Registration

namespace Engine

def register (engine : Engine) : Registration → Except RenderError Engine
  | .source name source => engine.addSource name source
  | .document text => engine.addDocument text
  | .template given => engine.addTemplate given

def registering : Registration → Steps RenderError Engine Unit
  | .source name source => addingSource name source
  | .document text => addingDocument text
  | .template given => addingTemplate given

theorem registering_transacts (call : Registration) :
    (registering call).Transacts (·.register call) := by
  cases call with
  | source name source => exact addingSource_transacts name source
  | document text => exact addingDocument_transacts text
  | template given => exact addingTemplate_transacts given

/-- How a call that works in place ends, and the engine that it leaves. -/
def perform (engine : Engine) (call : Registration) : Except RenderError Unit × Engine :=
  (registering call).run.run engine

theorem perform_eq (engine : Engine) (call : Registration) :
    engine.perform call = Steps.settled engine (engine.register call) :=
  registering_transacts call engine

/-- The engine after calls in turn, of which some may fail. -/
def performAll (engine : Engine) (calls : List Registration) : Engine :=
  calls.foldl (fun engine call => (engine.perform call).2) engine

theorem register_of_gives (engine : Engine) {call : Registration} {given : Template}
    (h : call.Gives given) : engine.register call = engine.addTemplate given := by
  cases h with
  | source hparse =>
    rw [register, addSource, hparse]
    rfl
  | document hread hlower =>
    rw [register, addDocument, hread]
    dsimp only
    rw [Document.toTemplate, hlower]
    rfl
  | template _ => rfl

theorem register_of_registers (engine : Engine) {call : Registration} {template : Template}
    (h : call.Registers template) : engine.register call = .ok (engine.holding template) := by
  obtain ⟨given, hgives, hscan⟩ := h
  rw [engine.register_of_gives hgives, addTemplate, Store.add, hscan]
  rfl

theorem register_of_refused (engine : Engine) {call : Registration} {error : RenderError}
    (h : call.Refused error) : engine.register call = .error error := by
  cases h with
  | parsing hparse => rw [register, addSource, hparse]
  | reading hread => rw [register, addDocument, hread]
  | lowering hread hlower =>
    rw [register, addDocument, hread]
    dsimp only
    rw [Document.toTemplate, hlower]
    rfl
  | scanning hgives hscan =>
    rw [engine.register_of_gives hgives, addTemplate, Store.add, hscan]
    rfl

theorem perform_of_registers (engine : Engine) {call : Registration} {template : Template}
    (h : call.Registers template) : engine.perform call = (.ok (), engine.holding template) := by
  rw [perform_eq, engine.register_of_registers h, Steps.settled]

theorem perform_of_refused (engine : Engine) {call : Registration} {error : RenderError}
    (h : call.Refused error) : engine.perform call = (.error error, engine) := by
  rw [perform_eq, engine.register_of_refused h, Steps.settled]

theorem find?_holding_of_ne (engine : Engine) {template : Template} {name : String}
    (h : name ≠ template.name) :
    (engine.holding template).store.find? name = engine.store.find? name :=
  Dict.find?_insert_of_ne h template engine.store.templates

variable (engine : Engine)

theorem performAll_append_singleton (calls : List Registration) (call : Registration) :
    engine.performAll (calls ++ [call]) = ((engine.performAll calls).perform call).2 := by
  rw [performAll, List.foldl_append]
  rfl

/-- What every registration keeps holds after all calls. -/
theorem performAll_keeps (Holds : Engine → Prop)
    (hstep : ∀ (engine : Engine) (call : Registration) (template : Template),
      call.Registers template → Holds engine → Holds (engine.holding template))
    (hstart : Holds engine) (calls : List Registration) : Holds (engine.performAll calls) := by
  induction calls using List.reverseRecOn with
  | nil => exact hstart
  | append_singleton calls call ih =>
    rw [performAll_append_singleton]
    obtain ⟨template, hregisters⟩ | ⟨error, hrefused⟩ := call.registers_or_refused
    · rw [perform_of_registers _ hregisters]
      exact hstep _ call template hregisters ih
    · rw [perform_of_refused _ hrefused]
      exact ih

theorem registry_performAll (calls : List Registration) :
    (engine.performAll calls).registry = engine.registry :=
  engine.performAll_keeps (·.registry = engine.registry) (fun _ _ _ _ h => h) rfl calls

theorem maxIncludeDepth_performAll (calls : List Registration) :
    (engine.performAll calls).store.maxIncludeDepth = engine.store.maxIncludeDepth :=
  engine.performAll_keeps (·.store.maxIncludeDepth = engine.store.maxIncludeDepth)
    (fun _ _ _ _ h => h) rfl calls

end Engine

theorem Store.Built.holding {engine : Engine} (h : engine.store.Built) {template : Template}
    (hscanned : template.IsScanned) : (engine.holding template).store.Built := by
  have hadd : engine.store.add template = .ok (engine.holding template).store := by
    rw [Store.add, hscanned]
    rfl
  exact .add h hadd

theorem Store.Built.sorted {store : Store} (h : store.Built) : Dict.Sorted store.templates := by
  induction h with
  | empty limit => exact List.Pairwise.nil
  | add _ hadd ih =>
    obtain ⟨scanned, -, rfl⟩ := add_eq_ok hadd
    exact ih.insert scanned.name scanned

namespace Engine

variable {engine : Engine}

theorem built_performAll (h : engine.store.Built) (calls : List Registration) :
    (engine.performAll calls).store.Built :=
  engine.performAll_keeps (·.store.Built)
    (fun _ _ _ hregisters hbuilt => hbuilt.holding hregisters.isScanned) h calls

variable (engine)

theorem find?_perform_of_ne {call : Registration} {name : String}
    (h : ∀ template, call.Registers template → template.name ≠ name) :
    (engine.perform call).2.store.find? name = engine.store.find? name := by
  obtain ⟨template, hregisters⟩ | ⟨error, hrefused⟩ := call.registers_or_refused
  · rw [engine.perform_of_registers hregisters]
    exact engine.find?_holding_of_ne (Ne.symm (h template hregisters))
  · rw [engine.perform_of_refused hrefused]

open Registration in
/-- Under each name the last template registered with it is held. -/
theorem find?_performAll (calls : List Registration) (name : String) :
    (∃ template, LastRegisters calls name template ∧
      (engine.performAll calls).store.find? name = some template) ∨
    (NoneRegisters calls name ∧
      (engine.performAll calls).store.find? name = engine.store.find? name) := by
  induction calls using List.reverseRecOn with
  | nil => exact Or.inr ⟨by simp [NoneRegisters], rfl⟩
  | append_singleton calls call ih =>
    rw [performAll_append_singleton]
    by_cases hcall : ∃ template, call.Registers template ∧ template.name = name
    · obtain ⟨template, hregisters, hname⟩ := hcall
      refine Or.inl ⟨template, ⟨calls, call, [], rfl, hregisters, hname, by simp⟩, ?_⟩
      rw [perform_of_registers _ hregisters]
      exact hname ▸ find?_holding _ template
    · have hother : ∀ other, call.Registers other → other.name ≠ name :=
        fun other hregisters hname => hcall ⟨other, hregisters, hname⟩
      rw [find?_perform_of_ne _ hother]
      obtain ⟨template, hlast, hfind⟩ | ⟨hnone, hfind⟩ := ih
      · exact Or.inl ⟨template, hlast.append_singleton hother, hfind⟩
      · exact Or.inr ⟨hnone.append_singleton hother, hfind⟩

theorem find?_perform_congr {other : Engine} {name : String}
    (h : engine.store.find? name = other.store.find? name) (call : Registration) :
    (engine.perform call).2.store.find? name = (other.perform call).2.store.find? name := by
  by_cases hcall : ∃ template, call.Registers template ∧ template.name = name
  · obtain ⟨template, hregisters, rfl⟩ := hcall
    rw [perform_of_registers _ hregisters, perform_of_registers _ hregisters, find?_holding,
      find?_holding]
  · have hnone : ∀ template, call.Registers template → template.name ≠ name :=
      fun template hregisters hname => hcall ⟨template, hregisters, hname⟩
    rw [find?_perform_of_ne _ hnone, find?_perform_of_ne _ hnone, h]

/-- What is held under a name depends on the calls for that name alone. -/
theorem find?_performAll_filter (calls : List Registration) (name : String) :
    (engine.performAll calls).store.find? name =
      (engine.performAll (calls.filter (·.name? = some name))).store.find? name := by
  induction calls using List.reverseRecOn with
  | nil => rfl
  | append_singleton calls call ih =>
    rw [performAll_append_singleton, List.filter_append]
    by_cases hname : call.name? = some name
    · have hkept : [call].filter (·.name? = some name) = [call] := by simp [hname]
      rw [hkept, performAll_append_singleton]
      exact find?_perform_congr _ ih call
    · have hdropped : [call].filter (·.name? = some name) = [] := by simp [hname]
      rw [hdropped, List.append_nil, ← ih]
      refine find?_perform_of_ne _ fun template hregisters heq => hname ?_
      rw [hregisters.name?_eq, heq]

/-- Calls for different names may be made in any order. -/
theorem performAll_eq_of_filter_eq {engine : Engine} (hbuilt : engine.store.Built)
    {calls others : List Registration}
    (h : ∀ name : String,
      calls.filter (·.name? = some name) = others.filter (·.name? = some name)) :
    engine.performAll calls = engine.performAll others := by
  have hregistry : (engine.performAll calls).registry = (engine.performAll others).registry := by
    rw [registry_performAll, registry_performAll]
  have hlimit : (engine.performAll calls).store.maxIncludeDepth =
      (engine.performAll others).store.maxIncludeDepth := by
    rw [maxIncludeDepth_performAll, maxIncludeDepth_performAll]
  have htemplates : (engine.performAll calls).store.templates =
      (engine.performAll others).store.templates := by
    refine Dict.Sorted.ext (built_performAll hbuilt calls).sorted
      (built_performAll hbuilt others).sorted fun name => ?_
    have hcalls := engine.find?_performAll_filter calls name
    rw [h name, ← engine.find?_performAll_filter others name] at hcalls
    exact hcalls
  exact Engine.ext (Store.ext htemplates hlimit) hregistry

open Registration in
/-- A call that fails leaves all templates as they were, and one that succeeds changes the template
of its own name alone. So an engine holds the last template registered under each name, with the
blocks of its tree, and the order of calls for different names makes no difference. -/
theorem performAll_registrations {engine : Engine} (hbuilt : engine.store.Built)
    (calls : List Registration) :
    let held := engine.performAll calls
    (∀ call, (∃ template changed, call.Registers template ∧
          held.perform call = (.ok (), changed) ∧
          changed.store.find? template.name = some template ∧
          (∀ name, name ≠ template.name → changed.store.find? name = held.store.find? name) ∧
          changed.store.maxIncludeDepth = held.store.maxIncludeDepth ∧
          changed.registry = held.registry) ∨
        ∃ error, call.Refused error ∧ held.perform call = (.error error, held)) ∧
      (∀ name, (∃ template, LastRegisters calls name template ∧
          held.store.find? name = some template) ∨
        (NoneRegisters calls name ∧ held.store.find? name = engine.store.find? name)) ∧
      (∀ name template, held.store.find? name = some template →
        template.name = name ∧ template.scanBlocks = .ok template) ∧
      ∀ others : List Registration,
        (∀ name : String,
          calls.filter (·.name? = some name) = others.filter (·.name? = some name)) →
        engine.performAll others = held := by
  intro held
  refine ⟨fun call => ?_, engine.find?_performAll calls, fun name template hfind => ?_,
    fun others h => (performAll_eq_of_filter_eq hbuilt h).symm⟩
  · obtain ⟨template, hregisters⟩ | ⟨error, hrefused⟩ := call.registers_or_refused
    · exact Or.inl ⟨template, _, hregisters, held.perform_of_registers hregisters,
        held.find?_holding template, fun name hname => held.find?_holding_of_ne hname, rfl, rfl⟩
    · exact Or.inr ⟨error, hrefused, held.perform_of_refused hrefused⟩
  · exact (built_performAll hbuilt calls).of_find? hfind

/-- Two drafts of a letter, a broken one between them, and a note. -/
def drafts : List Registration :=
  [.source "letter" "Dear", .source "note" "\x7b\x7b n \x7d\x7d", .source "letter" "\x7b\x7b n",
    .source "letter" "Hi"]

/-- The broken draft changes nothing, the last one stays, and the note may come first. -/
theorem performAll_registrations_drafts :
    ({} : Engine).store.Built ∧
      (∃ error, (({} : Engine).performAll (drafts.take 2)).perform
          (.source "letter" "\x7b\x7b n") =
        (.error error, ({} : Engine).performAll (drafts.take 2))) ∧
      (∃ template, Registration.LastRegisters drafts "letter" template ∧
        (({} : Engine).performAll drafts).store.find? "letter" = some template) ∧
      ({} : Engine).performAll (.source "note" "\x7b\x7b n \x7d\x7d" :: .source "letter" "Dear" ::
        drafts.drop 2) = ({} : Engine).performAll drafts := by
  have hbuilt : ({} : Engine).store.Built := .empty 64
  obtain ⟨hstep, -⟩ := performAll_registrations hbuilt (drafts.take 2)
  obtain ⟨-, hheld, -, horder⟩ := performAll_registrations hbuilt drafts
  refine ⟨hbuilt, ?_, ?_, ?_⟩
  · obtain ⟨template, changed, hregisters, hperform, -⟩ | ⟨error, -, hperform⟩ :=
      hstep (.source "letter" "\x7b\x7b n")
    · cases hperform
    · exact ⟨error, hperform⟩
  · have hparse : Markup.parse "Hi" = .ok (.source [.content "Hi"]) := rfl
    have hregisters : (Registration.source "letter" "Hi").Registers
        ⟨"letter", "1", .source [.content "Hi"], []⟩ := ⟨_, .source hparse, rfl⟩
    obtain hlast | ⟨hnone, -⟩ := hheld "letter"
    · exact hlast
    · exact absurd rfl (hnone _ (by simp [drafts]) _ hregisters)
  · refine horder _ fun name => ?_
    by_cases hnote : "note" = name
    · subst hnote
      rfl
    · have hdropped : ∀ calls, (Registration.source "note" "\x7b\x7b n \x7d\x7d" :: calls).filter
          (·.name? = some name) = calls.filter (·.name? = some name) := fun calls =>
        List.filter_cons_of_neg (by simpa [Registration.name?] using hnote)
      simp only [drafts, List.drop, hdropped, List.filter_cons]

end Engine

end TemplateEngine
