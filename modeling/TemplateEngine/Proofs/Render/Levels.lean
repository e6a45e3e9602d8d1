import TemplateEngine.Proofs.Render.Running

/-! # The context of a moment

The context that a render has come to is the one at its start with what the levels around have
added and with the assignments made so far. -/

namespace TemplateEngine

namespace Entry

def inclusion? : Entry → Option String
  | .inclusion name => some name
  | _ => none

def override? : Entry → Option String
  | .override name => some name
  | _ => none

def iteration? : Entry → Option Iteration
  | .iteration running => some running
  | _ => none

end Entry

def Level.entry? : Level → Option Entry
  | .nodes entry _ => some entry
  | .loop _ _ _ _ => none

section

variable {σ : Type} {sink : Sink σ}

/-- What every step keeps holds in every moment of a run that starts with it. -/
theorem Reaches.keeps {start moment : Moment σ} (h : Reaches sink start moment)
    (Holds : Moment σ → Prop)
    (hstep : ∀ {moment next}, Holds moment → Step sink moment next → Holds next)
    (hstart : Holds start) : Holds moment := by
  induction h with
  | refl => exact hstart
  | tail _ hnext ih => exact hstep ih hnext

/-- How the nodes of levels were entered, innermost first. -/
def entries (levels : List Level) : List Entry :=
  levels.filterMap Level.entry?

/-- The iterations that are running, innermost first. -/
def iterations (levels : List Level) : List Iteration :=
  (entries levels).filterMap Entry.iteration?

/-- The context inside levels, after assignments. -/
def Context.along (start : Context) (levels : List Level) (made : List (String × Value)) :
    Context :=
  { start with
    assigned := Dict.ofEntries made.reverse
    frames := (iterations levels).map Iteration.frame
    included := (entries levels).filterMap Entry.inclusion?
    yields := (entries levels).filterMap Entry.override? }

theorem Context.along_cons (start : Context) (levels : List Level) (name : String) (value : Value)
    (made : List (String × Value)) :
    start.along levels ((name, value) :: made) = (start.along levels made).assign name value := by
  unfold along assign
  rw [List.reverse_cons, Dict.ofEntries_append_singleton]

namespace Moment

def node? (moment : Moment σ) : Option Node :=
  match moment.levels with
  | .nodes _ (node :: _) :: _ => some node
  | _ => none

theorem exists_of_node? {moment : Moment σ} {node : Node} (h : moment.node? = some node) :
    ∃ entry todo levels, moment.levels = .nodes entry (node :: todo) :: levels := by
  unfold node? at h
  split at h
  · next entry first todo levels hlevels =>
    obtain rfl := Option.some.inj h
    exact ⟨entry, todo, levels, hlevels⟩
  · cases h

theorem ends_of_node? {moment : Moment σ} {node : Node} {error : RenderError} {out : σ}
    (h : moment.node? = some node)
    (heffect : node.effect sink moment.context moment.out = .fails error out) :
    moment.Ends sink (.error error, out) := by
  obtain ⟨entry, todo, below, hlevels⟩ := exists_of_node? h
  obtain ⟨levels, context, out', made⟩ := moment
  obtain rfl : levels = _ := hlevels
  exact .fails heffect

def Fits (start : Context) (moment : Moment σ) : Prop :=
  moment.context = start.along moment.levels moment.made

variable {start : Context} {moment next : Moment σ}

theorem Fits.step (h : moment.Fits start) (hstep : Step sink moment next) : next.Fits start := by
  unfold Fits at h ⊢
  cases hstep with
  | pass heffect =>
    cases Node.does_of_effect_eq heffect with
    | passes => exact h
    | assigns _ =>
      dsimp only at h ⊢
      rw [h, List.singleton_append, Context.along_cons]
      rfl
  | enter heffect =>
    cases Node.does_of_effect_eq heffect with
    | inside _ _ => exact h
    | includes _ henter =>
      obtain ⟨-, -, rfl⟩ := Context.enterInclude_eq_ok henter
      dsimp only at h ⊢
      rw [h]
      rfl
    | overrides _ henter =>
      obtain ⟨-, rfl⟩ := Context.enterYield_eq_ok henter
      dsimp only at h ⊢
      rw [h]
      rfl
  | loop _ => exact h
  | iterate =>
    dsimp only at h ⊢
    rw [h]
    rfl
  | finish => exact h
  | @leave entry =>
    dsimp only at h ⊢
    rw [h]
    cases entry <;> rfl

theorem Fits.store (h : moment.Fits start) : moment.context.store = start.store := by
  rw [h]
  rfl

theorem Fits.blocks (h : moment.Fits start) : moment.context.blocks = start.blocks := by
  rw [h]
  rfl

theorem Fits.entry (h : moment.Fits start) : moment.context.entry = start.entry := by
  rw [h]
  rfl

end Moment

end

namespace Store

variable {σ : Type} (store : Store) (registry : Registry) (sink : Sink σ) (name : String)
  (data : Dict Value) (out : σ)

/-- The moments that the render of a template comes to. -/
def Comes (moment : Moment σ) : Prop :=
  ∃ template, store.find? name = some template ∧
    Reaches sink (store.opening registry name data out template) moment

variable {store registry sink name data out}

theorem Comes.fits {moment : Moment σ} (h : store.Comes registry sink name data out moment) :
    ∃ template, store.find? name = some template ∧
      moment.Fits (store.start registry name template data) := by
  obtain ⟨template, hfind, hreaches⟩ := h
  exact ⟨template, hfind, hreaches.keeps (Moment.Fits _) (fun h => h.step) rfl⟩

theorem Comes.exists_ends (h : (store.find? name).isSome) :
    ∃ last, store.Comes registry sink name data out last ∧
      last.Ends sink (store.render registry sink name data out) := by
  obtain ⟨template, hfind⟩ := Option.isSome_iff_exists.mp h
  obtain ⟨last, hlast, hends⟩ := store.render_reaches registry sink name data out hfind
  exact ⟨last, ⟨template, hfind, hlast⟩, hends⟩

theorem Comes.render_eq {moment : Moment σ} {ended : Except RenderError Unit × σ}
    (h : store.Comes registry sink name data out moment) (hends : moment.Ends sink ended) :
    store.render registry sink name data out = ended := by
  obtain ⟨template, hfind, hreaches⟩ := h
  obtain ⟨last, hlast, hlastEnds⟩ := store.render_reaches registry sink name data out hfind
  exact hlast.ends_unique hlastEnds hreaches hends

/-- A render that fails does so at a node, unless its entry is unknown. -/
theorem exists_of_render_eq_error {error : RenderError}
    (h : (store.render registry sink name data out).1 = .error error) :
    (store.find? name = none ∧ error = .unknownTemplate name) ∨
      ∃ moment node out', store.Comes registry sink name data out moment ∧
        moment.Ends sink (store.render registry sink name data out) ∧
        moment.node? = some node ∧ node.Does moment.context moment.out (.fails error out') := by
  cases hfind : store.find? name with
  | none =>
    rw [render, hfind] at h
    exact .inl ⟨rfl, (Except.error.inj h).symm⟩
  | some template =>
    obtain ⟨last, hlast, hends⟩ := store.render_reaches registry sink name data out hfind
    refine .inr ⟨last, ?_⟩
    generalize store.render registry sink name data out = ended at h hends
    cases hends with
    | done => cases h
    | fails heffect =>
      cases h
      exact ⟨_, _, ⟨template, hfind, hlast⟩, .fails heffect, rfl, Node.does_of_effect_eq heffect⟩

end Store

end TemplateEngine
