import Mathlib.Data.List.Perm.Subperm
import TemplateEngine.Proofs.Dict
import TemplateEngine.Proofs.Render.Agreement

/-! # Every render ends

Includes and overrides continue in trees that lie elsewhere, so that no tree gets smaller. What gets
smaller is the room that the guards leave: templates that may still be included and overrides that
are not being expanded. -/

namespace TemplateEngine

namespace Context

/-- The overrides that are being expanded are different blocks of the entry. -/
structure Guarded (context : Context) : Prop where
  nodup : context.yields.Nodup
  known : ∀ name ∈ context.yields, name ∈ Dict.keys context.blocks

variable {context inner : Context} {name : String}

theorem Guarded.enterInclude (h : context.Guarded)
    (henter : context.enterInclude name = .ok inner) :
    inner.Guarded ∧ inner.room < context.room := by
  obtain ⟨-, hdepth, rfl⟩ := enterInclude_eq_ok henter
  refine ⟨⟨h.nodup, h.known⟩, ?_⟩
  simp only [room, includeChain, List.length_cons, List.length_reverse] at hdepth ⊢
  omega

theorem Guarded.enterYield (h : context.Guarded) {nodes : List Node}
    (hblock : context.block? name = some nodes) (henter : context.enterYield name = .ok inner) :
    inner.Guarded ∧ inner.room < context.room := by
  obtain ⟨hmem, rfl⟩ := enterYield_eq_ok henter
  have hguarded : Guarded { context with yields := name :: context.yields } :=
    ⟨List.nodup_cons.mpr ⟨hmem, h.nodup⟩,
      List.forall_mem_cons.mpr ⟨Dict.mem_keys_of_find?_eq_some hblock, h.known⟩⟩
  have hlength : (name :: context.yields).length ≤ (Dict.keys context.blocks).length :=
    (hguarded.nodup.subperm hguarded.known).length_le
  refine ⟨hguarded, ?_⟩
  simp only [Dict.keys, List.length_map, List.length_cons] at hlength
  simp only [room, includeChain, List.length_cons]
  omega

/-- Every include and every override takes up room. -/
theorem Guarded.enters (h : context.Guarded) (henters : context.Enters inner) :
    inner.Guarded ∧ inner.room < context.room := by
  rcases henters with ⟨name, henter | ⟨⟨nodes, hblock⟩, henter⟩⟩
  · exact h.enterInclude henter
  · exact h.enterYield hblock henter

/-- There is room for `depth` includes and overrides inside one another. -/
def HasRoom (depth : Nat) (context : Context) : Prop :=
  context.Guarded ∧ context.room ≤ depth

theorem isLocal_hasRoom (depth : Nat) : IsLocal (HasRoom depth) :=
  fun _ _ _ h => ⟨⟨h.1.nodup, h.1.known⟩, h.2⟩

end Context

section

variable {σ : Type} (sink : Sink σ)

/-- Evaluates nodes as deep as the guards of the context let includes and overrides nest. -/
def evaluateAll (nodes : List Node) : Action σ := fun context out =>
  evaluateWithin sink context.room nodes context out

/-- The recursion of evaluation, which continues in trees elsewhere without a bound. -/
def IsRecursive (full : List Node → Action σ) : Prop :=
  ∀ nodes context out, context.Guarded →
    full nodes context out = evaluateNodes sink full nodes context out

variable {sink}

/-- One step of the induction on the depth: what is entered has less room. -/
theorem evaluateWithin_agrees_of_less {full : List Node → Action σ} {depth : Nat}
    (h : ∀ less < depth, ∀ nodes,
      Action.Agrees (Context.HasRoom less) (evaluateWithin sink less nodes) (full nodes))
    (nodes : List Node) :
    Action.Agrees (Context.HasRoom depth) (evaluateWithin sink depth nodes)
      (evaluateNodes sink full nodes) := by
  have hlocal := Context.isLocal_hasRoom depth
  cases depth with
  | zero =>
    have hnone : ∀ {context inner : Context}, context.HasRoom 0 → ¬context.Enters inner :=
      fun hroom henters => absurd (hroom.1.enters henters).2 (by have := hroom.2; omega)
    exact evaluateNodes_agrees sink hlocal ⟨fun _ => .fail .endless,
      fun _ _ hroom henters => absurd henters (hnone hroom),
      fun _ _ hroom henters => absurd henters (hnone hroom)⟩ nodes
  | succ depth =>
    have hinner : ∀ {context inner : Context}, context.HasRoom (depth + 1) →
        context.Enters inner → inner.HasRoom depth := by
      intro context inner hroom henters
      obtain ⟨hguarded, hless⟩ := hroom.1.enters henters
      exact ⟨hguarded, by have := hroom.2; omega⟩
    have hdepth := h depth (Nat.lt_succ_self depth)
    exact evaluateNodes_agrees sink hlocal ⟨evaluateWithin_keeps sink depth,
      fun nodes out hroom henters => (hdepth nodes).eq out (hinner hroom henters),
      fun nodes out hroom henters => (hdepth nodes).ne_endless out (hinner hroom henters)⟩ nodes

/-- Where there is room, evaluation to a depth does what the recursion does. -/
theorem IsRecursive.agrees {full : List Node → Action σ} (hfull : IsRecursive sink full)
    (depth : Nat) (nodes : List Node) :
    Action.Agrees (Context.HasRoom depth) (evaluateWithin sink depth nodes) (full nodes) := by
  induction depth using Nat.strongRecOn generalizing nodes with
  | ind depth ih =>
    have hnodes := evaluateWithin_agrees_of_less ih nodes
    exact { hnodes with
      eq := fun out hroom => (hnodes.eq out hroom).trans (hfull nodes _ out hroom.1).symm }

variable (sink)

/-- More depth than there is room for makes no difference. -/
theorem evaluateWithin_agrees (depth : Nat) (nodes : List Node) :
    Action.Agrees (Context.HasRoom depth) (evaluateWithin sink depth nodes)
      (evaluateAll sink nodes) := by
  induction depth using Nat.strongRecOn generalizing nodes with
  | ind depth ih =>
    have hdepth := evaluateWithin_agrees_of_less ih nodes
    refine { hdepth with eq := fun {context} out hroom => ?_ }
    have hless := evaluateWithin_agrees_of_less
      (fun less hless => ih less (Nat.lt_of_lt_of_le hless hroom.2)) nodes
    rw [hdepth.eq out hroom, evaluateAll, hless.eq out ⟨hroom.1, Nat.le_refl _⟩]

/-- To every depth, nodes are evaluated in terms of what includes and overrides do there. -/
theorem evaluateWithin_eq_evaluateNodes (depth : Nat) : ∃ expand : List Node → Action σ,
    ∀ nodes, evaluateWithin sink depth nodes = evaluateNodes sink expand nodes := by
  cases depth with
  | zero => exact ⟨fun _ => .fail .endless, fun _ => rfl⟩
  | succ depth => exact ⟨evaluateWithin sink depth, fun _ => rfl⟩

theorem evaluateAll_keeps (nodes : List Node) : (evaluateAll sink nodes).Keeps :=
  fun context => evaluateWithin_keeps sink context.room nodes context

/-- Evaluation as deep as the guards let it go is the recursion. -/
theorem isRecursive_evaluateAll : IsRecursive sink (evaluateAll sink) := by
  intro nodes context out hguarded
  have hnodes : Action.Agrees (Context.HasRoom context.room)
      (evaluateWithin sink context.room nodes) (evaluateNodes sink (evaluateAll sink) nodes) :=
    evaluateWithin_agrees_of_less (fun less _ => evaluateWithin_agrees sink less) nodes
  exact hnodes.eq out ⟨hguarded, Nat.le_refl _⟩

end

namespace Store

def start (store : Store) (registry : Registry) (name : String) (template : Template)
    (data : Dict Value) : Context :=
  { data, blocks := template.blocks, registry, store, entry := name }

variable {σ : Type} (store : Store) (registry : Registry) (sink : Sink σ) (name : String)
  (data : Dict Value) (out : σ)

theorem hasRoom_start (template : Template) :
    (store.start registry name template data).HasRoom
      (store.maxIncludeDepth - 1 + template.blocks.length) :=
  ⟨⟨List.nodup_nil, nofun⟩, Nat.le_refl _⟩

theorem render_of_find?_eq_some {template : Template} (h : store.find? name = some template) :
    store.render registry sink name data out =
      ((evaluateAll sink [template.root] (store.start registry name template data) out).result,
        (evaluateAll sink [template.root] (store.start registry name template data) out).sink) := by
  rw [render, h]
  rfl

/-- Every render ends. The recursion of evaluation, which has no bound, has one solution where
guards are kept, a render is its value at the root, and a depth that the limit of includes and the
number of blocks give is enough to compute it. -/
theorem render_ends :
    (store.render registry sink name data out).1 ≠ .error .endless ∧
      ∃ full, IsRecursive sink full ∧
        (∀ other, IsRecursive sink other → ∀ nodes context out, context.Guarded →
          other nodes context out = full nodes context out) ∧
        ∀ template, store.find? name = some template →
          let outcome := full [template.root] (store.start registry name template data) out
          store.render registry sink name data out = (outcome.result, outcome.sink) ∧
            ∀ depth, store.maxIncludeDepth - 1 + template.blocks.length ≤ depth →
              evaluateWithin sink depth [template.root]
                (store.start registry name template data) out = outcome := by
  have hstart : ∀ template, (store.start registry name template data).HasRoom
      (store.maxIncludeDepth - 1 + template.blocks.length) := store.hasRoom_start registry name data
  refine ⟨?_, evaluateAll sink, isRecursive_evaluateAll sink, ?_, ?_⟩
  · cases hfind : store.find? name with
    | none =>
      rw [render, hfind]
      exact nofun
    | some template =>
      rw [store.render_of_find?_eq_some registry sink name data out hfind]
      exact (evaluateWithin_agrees sink _ _).ne_endless out (hstart template)
  · intro other hother nodes context out hguarded
    exact ((hother.agrees context.room nodes).eq out ⟨hguarded, Nat.le_refl _⟩).symm
  · intro template hfind
    refine ⟨store.render_of_find?_eq_some registry sink name data out hfind, ?_⟩
    intro depth hdepth
    exact (evaluateWithin_agrees sink depth _).eq out
      ⟨(hstart template).1, Nat.le_trans (hstart template).2 hdepth⟩

/-- Templates that include each other end in an error. -/
example : ({ templates := [("a", ⟨"a", "1", .inclusion "b", []⟩),
      ("b", ⟨"b", "1", .inclusion "a", []⟩)] } : Store).render {} Sink.text "a" [] "" =
    (.error (.circularInclude ["a", "b", "a"]), "") := rfl

end Store

end TemplateEngine
