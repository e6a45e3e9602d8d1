import TemplateEngine.Proofs.Markup.Calls
import TemplateEngine.Proofs.Node.Lowered
import TemplateEngine.Proofs.Render.Arguments
import TemplateEngine.Proofs.Template.Compile

/-! # Loaded templates

What an engine takes in from documents and from markup is valid. So the arguments of a call have
different names, and all of them are handed over unless an argument has an index as its name, which
only a document can give it. -/

namespace TemplateEngine

namespace Engine

/-- The engine takes a template in under the name, from markup or from a document. -/
inductive Loads (engine : Engine) (name : String) (loaded : Engine) : Prop
  | source (text : String) (h : engine.addSource name text = .ok loaded)
  | document (text : String) {version : String} {root : RawNode}
      (hread : Document.read? text = some ⟨name, version, root⟩)
      (h : engine.addDocument text = .ok loaded)

variable {engine loaded : Engine} {name : String}

theorem exists_of_addTemplate {template : Template} (h : engine.addTemplate template = .ok loaded) :
    ∃ blocks, loaded.store.find? template.name = some { template with blocks } := by
  unfold addTemplate at h
  split at h
  · next store hadd =>
    rw [Store.add] at hadd
    obtain ⟨scanned, hscan, hadd⟩ := exists_of_bind_eq_ok hadd
    rw [Template.scanBlocks] at hscan
    obtain ⟨blocks, -, hscan⟩ := exists_of_bind_eq_ok hscan
    cases hscan
    cases hadd
    cases h
    exact ⟨blocks, Dict.find?_insert_self _ _ _⟩
  · cases h

theorem exists_of_addSource {source : String} (h : engine.addSource name source = .ok loaded) :
    ∃ root blocks, Markup.parse source = .ok root ∧
      loaded.store.find? name = some { Template.ofMarkup name root with blocks } := by
  unfold addSource at h
  split at h
  · next root hparse =>
    obtain ⟨blocks, hfind⟩ := exists_of_addTemplate h
    exact ⟨root, blocks, hparse, hfind⟩
  · cases h

/-- A template that is taken in is valid, wherever it comes from. -/
theorem Loads.exists_isValid (h : engine.Loads name loaded) :
    ∃ template, loaded.store.find? name = some template ∧ template.root.IsValid := by
  cases h with
  | source text h =>
    obtain ⟨root, blocks, hparse, hfind⟩ := exists_of_addSource h
    obtain ⟨nodes, rfl, hplain⟩ := Markup.exists_isPlain_of_parse hparse
    exact ⟨_, hfind, Markup.allValid_of_isPlain hplain⟩
  | @document text version raw hread h =>
    rw [addDocument, hread] at h
    dsimp only at h
    split at h
    · next template htemplate =>
      rw [Document.toTemplate] at htemplate
      obtain ⟨root, hroot, htemplate⟩ := exists_of_bind_eq_ok htemplate
      cases htemplate
      obtain ⟨blocks, hfind⟩ := exists_of_addTemplate h
      exact ⟨_, hfind, (RawNode.lowerNode_sound raw hroot).2.1⟩
    · cases h

end Engine

theorem Markup.NamedCalls.not_clash {calls : List Call} (h : NamedCalls calls) {call : Call}
    (hcall : call ∈ calls) : ¬Argument.Clash call.args := by
  rintro ⟨i, j, arg, other, hi, -, hname, -⟩
  have hmem : j.repr ∈ Argument.names call.args :=
    List.mem_filterMap.mpr ⟨arg, List.mem_of_getElem? hi, hname⟩
  exact (h call hcall _ hmem).ne_repr j rfl

namespace Engine

variable {engine loaded : Engine} {name : String}

/-- A call in a template that was taken in hands over every argument in a place of its own exactly
if no argument has the index of another one as its name. In markup none has. -/
theorem Loads.carries_iff (h : engine.Loads name loaded) :
    ∃ template, loaded.store.find? name = some template ∧ ∀ call ∈ template.root.calls,
      ((∃ source, engine.addSource name source = .ok loaded) → ¬Argument.Clash call.args) ∧
      ∀ (context : Context) (values : List Value), context.evalAll call.args = .ok values →
        ∃ given, context.arguments call.args = .ok given ∧
          (∀ function, context.registry.resolve? call.function call.args.length = some function →
            context.eval call.expr = (function given).mapError (.functionFailed call.function)) ∧
          (Arguments.Carries call.args values given ↔ ¬Argument.Clash call.args) := by
  obtain ⟨template, hfind, hvalid⟩ := h.exists_isValid
  refine ⟨template, hfind, fun call hcall => ⟨?_, fun context values hvalues => ?_⟩⟩
  · rintro ⟨source, hsource⟩
    obtain ⟨root, blocks, hparse, hsame⟩ := exists_of_addSource hsource
    obtain rfl := Option.some.inj (hfind.symm.trans hsame)
    exact (Markup.namedCalls_of_parse hparse).not_clash hcall
  · have hnames := (template.root.allValid_calls hvalid call hcall).2.2.1
    have hgiven := Context.arguments_of_evalAll hvalues
    refine ⟨_, hgiven, fun function hfunction => ?_,
      Arguments.carries_collect_iff hnames (Context.length_of_evalAll hvalues)⟩
    rw [Call.expr, Context.eval_function hfunction, hgiven]
    rfl

/-- A call with an index and a name as keys. -/
def joinCall : Call :=
  ⟨"join", [.value none (.var "x"), .value (some "sep") (.var "y")]⟩

def joinContext : Context :=
  { data := [("x", .string "a"), ("y", .string "-")], blocks := [], registry := {}, store := {},
    entry := "t" }

/-- Both arguments are handed over, the first under its index and the other under its name. -/
theorem Loads.carries_joinCall :
    ∃ loaded given,
      ({} : Engine).addSource "t" "\x7b\x7b join(x, sep = y) \x7d\x7d" = .ok loaded ∧
      joinContext.arguments joinCall.args = .ok given ∧
      Arguments.Carries joinCall.args [.string "a", .string "-"] given := by
  have hparse : Markup.parse "\x7b\x7b join(x, sep = y) \x7d\x7d" =
      .ok (.source [.display joinCall.expr]) := rfl
  have hsource := addSource_of_parse {} "t" hparse
  obtain ⟨template, hfind, hcalls⟩ := Loads.carries_iff (.source _ hsource)
  obtain rfl := Option.some.inj ((find?_holding {} _).symm.trans hfind)
  obtain ⟨hclash, hall⟩ := hcalls joinCall List.mem_cons_self
  obtain ⟨given, hgiven, -, hcarries⟩ := hall joinContext [.string "a", .string "-"] rfl
  exact ⟨_, given, hsource, hgiven, hcarries.mpr (hclash ⟨_, hsource⟩)⟩

/-- A call that names its second argument by the index of the first. -/
def clashingCall : Call :=
  ⟨"f", [.literal none "a", .literal (some "0") "b"]⟩

def clashingTemplate : Template :=
  { name := "t", version := "1", root := .source [.display clashingCall.expr] }

/-- A document with such a call is taken in, and the first argument is never handed over. -/
theorem Loads.not_carries_clashingCall :
    ∃ loaded, ({} : Engine).Loads "t" loaded ∧
      loaded.store.find? "t" = some clashingTemplate ∧
      clashingCall ∈ clashingTemplate.root.calls ∧ ∀ context : Context,
        context.evalAll clashingCall.args = .ok [.string "a", .string "b"] ∧
        context.arguments clashingCall.args = .ok (.named [("0", .string "b")]) ∧
        ¬Arguments.Carries clashingCall.args [.string "a", .string "b"]
          (.named [("0", .string "b")]) := by
  have hvalid : clashingTemplate.root.IsValid :=
    ⟨⟨by decide, ⟨trivial, trivial, trivial⟩, by decide, by decide⟩, trivial⟩
  have hread := (Document.ofTemplate clashingTemplate).read?_toPretty
  rw [if_pos (by decide)] at hread
  have hload := addDocument_ofTemplate {} hvalid
  rw [if_pos (by decide)] at hload
  refine ⟨_, .document _ hread (hload.trans rfl), rfl, List.mem_cons_self, fun context =>
    ⟨rfl, rfl, fun hcarries => ?_⟩⟩
  obtain ⟨entries, hentries, hlength, -⟩ := hcarries.named (by decide)
  cases hentries
  cases hlength

end Engine

end TemplateEngine
