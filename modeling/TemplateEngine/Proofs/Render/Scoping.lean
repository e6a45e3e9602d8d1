import TemplateEngine.Proofs.Render.Levels
import TemplateEngine.Proofs.Render.Noninterference

/-! # Scopes of variables

A variable stands for what the innermost iteration around binds it to, or else for what was assigned
to it last in the render, or else for the data of the host. -/

namespace TemplateEngine

namespace Iteration

/-- What an iteration binds: the data of the loop, and its variable if that has another name. -/
def binding? (iteration : Iteration) (name : String) : Option Value :=
  if name = "loop" then some (loopData iteration.index iteration.length)
  else if name = iteration.item then some iteration.value
  else none

theorem find?_frame (iteration : Iteration) (name : String) :
    Dict.find? iteration.frame name = iteration.binding? name := by
  unfold frame loopFrame binding?
  split_ifs with hloop hitem
  · subst hloop
    exact Dict.find?_insert_self _ _ _
  · rw [Dict.find?_insert_of_ne hloop, Dict.find?, if_pos hitem.symm]
  · rw [Dict.find?_insert_of_ne hloop, Dict.find?, if_neg (Ne.symm hitem), Dict.find?]

theorem isSome_binding?_iff {iteration : Iteration} {name : String} :
    (iteration.binding? name).isSome ↔ name = iteration.item ∨ name = "loop" := by
  unfold binding?
  split_ifs with hloop hitem <;> simp [*]

end Iteration

section

variable {σ : Type} {sink : Sink σ}

/-- What a variable stands for: the binding of the innermost iteration that has one, or else the
last assignment, or else the data of the host. -/
def Moment.resolve? (data : Dict Value) (moment : Moment σ) (name : String) : Option Value :=
  ((iterations moment.levels).findSome? (·.binding? name)).or
    ((moment.made.lookup name).or (Dict.find? data name))

theorem Moment.Fits.lookup? {start : Context} {moment : Moment σ} (h : moment.Fits start)
    (name : String) : moment.context.lookup? name = moment.resolve? start.data name := by
  have hbinding : ((Dict.find? · name) ∘ Iteration.frame) = (·.binding? name) :=
    funext fun iteration => iteration.find?_frame name
  rw [h, Context.lookup?, Context.findIn?, Context.along, List.findSome?_append,
    List.findSome?_map, hbinding, resolve?, ← Dict.find?_ofEntries_reverse]
  cases hassigned : Dict.find? (Dict.ofEntries moment.made.reverse) name <;> simp [hassigned]

/-- The level is a loop that binds the name in its iterations. -/
def Level.Binds (name : String) : Level → Prop
  | .nodes _ _ => False
  | .loop item _ _ _ => name = item ∨ name = "loop"

/-- Levels where nodes are evaluated: each loop around them is in one of its iterations. -/
inductive Nested : List Level → Prop
  | nil : Nested []
  | nodes {entry : Entry} {todo : List Node} {levels : List Level}
      (hentry : entry.iteration? = none) (h : Nested levels) : Nested (.nodes entry todo :: levels)
  | iteration {running : Iteration} {nodes body : List Node} {todo : List (Value × Nat)}
      {levels : List Level} (h : Nested levels) :
      Nested (.nodes (.iteration running) nodes ::
        .loop running.item running.length body todo :: levels)

/-- A name is bound by a running iteration exactly if it is by an open loop. -/
theorem Nested.exists_binds_iff {levels : List Level} (h : Nested levels) (name : String) :
    (∃ level ∈ levels, level.Binds name) ↔
      ∃ iteration ∈ iterations levels, (iteration.binding? name).isSome := by
  induction h with
  | nil => simp [iterations, entries]
  | @nodes entry todo levels hentry _ ih =>
    have hiterations : iterations (.nodes entry todo :: levels) = iterations levels :=
      List.filterMap_cons_none hentry
    rw [hiterations, ← ih, List.exists_mem_cons_iff]
    exact or_iff_right id
  | @iteration running nodes body todo levels _ ih =>
    have hiterations : iterations (.nodes (.iteration running) nodes ::
        .loop running.item running.length body todo :: levels) = running :: iterations levels := rfl
    rw [hiterations, List.exists_mem_cons_iff, List.exists_mem_cons_iff, List.exists_mem_cons_iff,
      ← ih, Iteration.isSome_binding?_iff]
    exact or_iff_right id

theorem Nested.todo {entry : Entry} {nodes todo : List Node} {levels : List Level}
    (h : Nested (.nodes entry nodes :: levels)) : Nested (.nodes entry todo :: levels) := by
  cases h with
  | nodes hentry h => exact .nodes hentry h
  | iteration h => exact .iteration h

/-- Nodes are evaluated, or else a loop is between two of its iterations. -/
def WellNested : List Level → Prop
  | .loop _ _ _ _ :: levels => Nested levels
  | levels => Nested levels

theorem Nested.wellNested {levels : List Level} (h : Nested levels) : WellNested levels := by
  cases h with
  | nil => exact .nil
  | nodes hentry h => exact .nodes hentry h
  | iteration h => exact .iteration h

theorem WellNested.step {moment next : Moment σ} (h : WellNested moment.levels)
    (hstep : Step sink moment next) : WellNested next.levels := by
  cases hstep with
  | pass _ => exact Nested.todo h
  | enter heffect =>
    refine .nodes ?_ (Nested.todo h)
    cases Node.does_of_effect_eq heffect with
    | inside _ _ => rfl
    | includes _ _ => rfl
    | overrides _ _ => rfl
  | loop _ => exact Nested.todo h
  | iterate => exact .iteration h
  | finish => exact Nested.wellNested h
  | leave =>
    have hnested : Nested _ := h
    cases hnested with
    | nodes _ hbelow => exact hbelow.wellNested
    | iteration hbelow => exact hbelow

theorem nested_of_node? {moment : Moment σ} (h : WellNested moment.levels)
    (hnode : moment.node?.isSome) : Nested moment.levels := by
  obtain ⟨node, hnode⟩ := Option.isSome_iff_exists.mp hnode
  obtain ⟨entry, todo, below, hlevels⟩ := Moment.exists_of_node? hnode
  rw [hlevels] at h ⊢
  exact h

/-- The assignments made are those of the assignments that are evaluated. -/
theorem Step.made_eq {moment next : Moment σ} (h : Step sink moment next) :
    next.made = moment.made ∨ ∃ key expr value,
      moment.node? = some (.statement (.assign key expr)) ∧
        moment.context.eval expr = .ok value ∧ next.made = (key, value) :: moment.made := by
  cases h with
  | pass heffect =>
    cases Node.does_of_effect_eq heffect with
    | passes => exact .inl rfl
    | assigns hvalue => exact .inr ⟨_, _, _, rfl, hvalue, rfl⟩
  | enter _ => exact .inl rfl
  | loop _ => exact .inl rfl
  | iterate => exact .inl rfl
  | finish => exact .inl rfl
  | leave => exact .inl rfl

theorem Reaches.made_eq {moment later : Moment σ} (h : Reaches sink moment later) :
    ∃ since, later.made = since ++ moment.made := by
  induction h with
  | refl => exact ⟨[], rfl⟩
  | tail _ hstep ih =>
    obtain ⟨since, hsince⟩ := ih
    obtain hmade | ⟨key, expr, value, -, -, hmade⟩ := hstep.made_eq
    · exact ⟨since, hmade.trans hsince⟩
    · exact ⟨(key, value) :: since, by rw [hmade, hsince, List.cons_append]⟩

theorem Step.made_of_assign {moment next : Moment σ} {key : String} {expr : Expr} {value : Value}
    (h : Step sink moment next) (hnode : moment.node? = some (.statement (.assign key expr)))
    (hvalue : moment.context.eval expr = .ok value) : next.made = (key, value) :: moment.made := by
  have heffect : ∀ {out : σ}, Node.effect sink moment.context out (.statement (.assign key expr)) =
      .passes (moment.context.assign key value) out [(key, value)] := by
    intro out
    rw [Node.effect, hvalue]
    rfl
  cases h with
  | pass h =>
    obtain rfl := Option.some.inj hnode
    cases heffect.symm.trans h
    rfl
  | enter h =>
    obtain rfl := Option.some.inj hnode
    cases heffect.symm.trans h
  | loop h =>
    obtain rfl := Option.some.inj hnode
    cases heffect.symm.trans h
  | iterate => cases hnode
  | finish => cases hnode
  | leave => cases hnode

end

namespace Store

variable {σ : Type} {store : Store} {registry : Registry} {sink : Sink σ} {name : String}
  {data : Dict Value} {out : σ} {moment : Moment σ}

theorem Comes.trans {later : Moment σ} (h : store.Comes registry sink name data out moment)
    (hlater : Reaches sink moment later) : store.Comes registry sink name data out later := by
  obtain ⟨template, hfind, hreaches⟩ := h
  exact ⟨template, hfind, hreaches.trans hlater⟩

theorem Comes.wellNested (h : store.Comes registry sink name data out moment) :
    WellNested moment.levels := by
  obtain ⟨template, -, hreaches⟩ := h
  exact hreaches.keeps (WellNested ·.levels) (fun h => h.step) (.nodes rfl .nil)

theorem Comes.lookup? (h : store.Comes registry sink name data out moment) (key : String) :
    moment.context.lookup? key = moment.resolve? data key := by
  obtain ⟨template, -, hfits⟩ := h.fits
  exact hfits.lookup? key

theorem Comes.eval_var (h : store.Comes registry sink name data out moment) (key : String) :
    moment.context.eval (.var key) =
      (moment.resolve? data key).elim (.error (.unknownVariable key)) .ok := by
  rw [Context.eval, h.lookup? key]
  cases moment.resolve? data key <;> rfl

/-- Inside a loop that binds a name no assignment to it is seen. -/
theorem Comes.eval_var_of_binds (h : store.Comes registry sink name data out moment)
    (hnode : moment.node?.isSome) {key : String}
    (hopen : ∃ level ∈ moment.levels, level.Binds key) :
    ∃ iteration ∈ iterations moment.levels, ∃ value, iteration.binding? key = some value ∧
      moment.context.eval (.var key) = .ok value := by
  have hbound := ((nested_of_node? h.wellNested hnode).exists_binds_iff key).mp hopen
  rw [← List.findSome?_isSome_iff, Option.isSome_iff_exists] at hbound
  obtain ⟨value, hvalue⟩ := hbound
  obtain ⟨iteration, hmem, hbinding⟩ := List.exists_of_findSome?_eq_some hvalue
  refine ⟨iteration, hmem, value, hbinding, ?_⟩
  rw [h.eval_var, Moment.resolve?, hvalue]
  rfl

/-- Outside the loops that bind a name its last assignment is seen. -/
theorem Comes.eval_var_of_made (h : store.Comes registry sink name data out moment)
    (hnode : moment.node?.isSome) {key : String}
    (hopen : ∀ level ∈ moment.levels, ¬level.Binds key) {value : Value}
    (hmade : moment.made.lookup key = some value) :
    moment.context.eval (.var key) = .ok value := by
  have hbound : (iterations moment.levels).findSome? (·.binding? key) = none := by
    rw [← Option.not_isSome_iff_eq_none, List.findSome?_isSome_iff,
      ← (nested_of_node? h.wellNested hnode).exists_binds_iff key]
    rintro ⟨level, hlevel, hbinds⟩
    exact hopen level hlevel hbinds
  rw [h.eval_var, Moment.resolve?, hbound, hmade]
  rfl

/-- What was assigned is seen later wherever no loop around binds the name, until it is assigned to
again. -/
theorem Comes.eval_var_of_assign {next later : Moment σ} {key : String} {expr : Expr}
    {value : Value} (h : store.Comes registry sink name data out moment)
    (hnode : moment.node? = some (.statement (.assign key expr)))
    (hvalue : moment.context.eval expr = .ok value) (hstep : Step sink moment next)
    (hreaches : Reaches sink next later) (hlater : later.node?.isSome) :
    ∃ since, later.made = since ++ (key, value) :: moment.made ∧
      ((∀ level ∈ later.levels, ¬level.Binds key) → key ∉ since.map Prod.fst →
        later.context.eval (.var key) = .ok value) := by
  obtain ⟨since, hsince⟩ := hreaches.made_eq
  rw [hstep.made_of_assign hnode hvalue] at hsince
  refine ⟨since, hsince, fun hopen hfresh => ?_⟩
  have hnone : since.lookup key = none := by
    refine List.lookup_eq_none_iff.mpr fun assignment hmem => ?_
    have hne : key ≠ assignment.1 := fun heq => hfresh (heq ▸ List.mem_map_of_mem hmem)
    exact bne_iff_ne.mpr hne
  refine ((h.trans (.single hstep)).trans hreaches).eval_var_of_made hlater hopen ?_
  rw [hsince, List.lookup_append, hnone, Option.none_or, List.lookup_cons_self]

section

variable {template : Template} {rest : List Node} {key : String} {expr : Expr} {value : Value}

theorem Built.add_rest (h : store.Built) (hfind : store.find? name = some template)
    (hroot : template.root = .source (.statement (.assign key expr) :: rest)) :
    store.add { template with root := .source rest } = .ok { store with
      templates := Dict.insert name { template with root := .source rest } store.templates } := by
  obtain ⟨hname, hscanned⟩ := h.of_find? hfind
  have hblocks := (Template.scanBlocks_eq_ok hscanned).1
  rw [hroot] at hblocks
  have hrest : BlockMap.recordAll none [] rest = .ok template.blocks := hblocks
  rw [Store.add, Template.scanBlocks, Node.children, hrest, ← hname]
  rfl

theorem alike_start_assign (hfind : store.find? name = some template) (template' : Template)
    (hblocks : template'.blocks = template.blocks) :
    let store' := { store with templates := Dict.insert name template' store.templates }
    (start store' registry name template' (Dict.insert key value data)).Alike (fun _ => True)
      ((store.start registry name template data).assign key value) where
  frames := rfl
  blocks := hblocks
  entry := rfl
  included := rfl
  yields := rfl
  limit := rfl
  value other _ := by
    simp only [Context.findIn?, start, Context.assign, List.findSome?_cons, Dict.find?]
    by_cases hother : other = key
    · subst hother
      rw [Dict.find?_insert_self, Dict.find?_insert_self]
    · rw [Dict.find?_insert_of_ne hother, Dict.find?_insert_of_ne hother]
      rfl
  filter _ _ := rfl
  function _ _ := rfl
  template other _ := by
    by_cases hother : other = name
    · subst hother
      exact .inl ⟨rfl, Option.isSome_of_mem (Dict.find?_insert_self _ _ _),
        Option.isSome_of_mem hfind⟩
    · exact .inr ⟨Dict.find?_insert_of_ne hother _ _, fun _ _ _ _ => trivial⟩
  override _ _ _ _ _ := trivial

/-- A render does not tell a leading assignment from data of the host, since it comes to the rest of
the tree either way, in contexts in which all expressions have the same values. -/
theorem render_rest (hfind : store.find? name = some template)
    (hroot : template.root = .source (.statement (.assign key expr) :: rest))
    (hvalue : (store.start registry name template data).eval expr = .ok value) :
    let template' := { template with root := .source rest }
    let store' := { store with templates := Dict.insert name template' store.templates }
    render store' registry sink name (Dict.insert key value data) out =
      store.render registry sink name data out := by
  intro template' store'
  have hfind' : store'.find? name = some template' := Dict.find?_insert_self _ _ _
  have hguarded := (store.hasRoom_start registry name data template).1
  have hguarded' := (store'.hasRoom_start registry name (Dict.insert key value data) template').1
  have hassign : evaluateNodes sink (evaluateAll sink) [template.root]
      (store.start registry name template data) out = evaluateNodes sink (evaluateAll sink) rest
        ((store.start registry name template data).assign key value) out := by
    rw [evaluateNodes_singleton, hroot]
    refine Action.andThen_of_ok ?_
    rw [evaluateNode, evaluateStatement, Action.withValue, hvalue]
    rfl
  have hrest : evaluateNodes sink (evaluateAll sink) [template'.root]
      (store'.start registry name template' (Dict.insert key value data)) out =
        evaluateNodes sink (evaluateAll sink) rest
          (store'.start registry name template' (Dict.insert key value data)) out := by
    rw [evaluateNodes_singleton]
    rfl
  have hstart : (store'.start registry name template' (Dict.insert key value data)).Alike
      (fun _ => True) ((store.start registry name template data).assign key value) :=
    alike_start_assign hfind template' rfl
  have hknown : ∀ mention ∈ Node.allMentions rest, (fun _ => True) mention := fun _ _ => trivial
  have halike := evaluateNodes_alike sink hknown _ _ out hstart
  rw [render_of_find?_eq_some _ _ _ _ _ _ hfind, render_of_find?_eq_some _ _ _ _ _ _ hfind',
    isRecursive_evaluateAll sink _ _ out hguarded, isRecursive_evaluateAll sink _ _ out hguarded',
    hassign, hrest, halike.result, halike.sink]

end

variable (store registry sink name data out)

/-- Variables follow the scoping rules in every moment of a render, so that assignments are hidden
by the loops around that bind their name, and by nothing else, and a leading assignment does what
data of the host does. -/
theorem render_scoping :
    ((store.find? name).isSome → ∃ last, store.Comes registry sink name data out last ∧
        last.Ends sink (store.render registry sink name data out)) ∧
      (∀ moment, store.Comes registry sink name data out moment → ∀ key,
        moment.context.eval (.var key) =
          (moment.resolve? data key).elim (.error (.unknownVariable key)) .ok) ∧
      (∀ moment next, store.Comes registry sink name data out moment → Step sink moment next →
        next.made = moment.made ∨ ∃ key expr value,
          moment.node? = some (.statement (.assign key expr)) ∧
            moment.context.eval expr = .ok value ∧ next.made = (key, value) :: moment.made) ∧
      (∀ moment, store.Comes registry sink name data out moment → moment.node?.isSome →
        ∀ key, (∃ level ∈ moment.levels, level.Binds key) →
          ∃ iteration ∈ iterations moment.levels, ∃ value, iteration.binding? key = some value ∧
            moment.context.eval (.var key) = .ok value) ∧
      (∀ moment next later key expr value, store.Comes registry sink name data out moment →
        moment.node? = some (.statement (.assign key expr)) →
        moment.context.eval expr = .ok value → Step sink moment next → Reaches sink next later →
        later.node?.isSome →
          ∃ since, later.made = since ++ (key, value) :: moment.made ∧
            ((∀ level ∈ later.levels, ¬level.Binds key) → key ∉ since.map Prod.fst →
              later.context.eval (.var key) = .ok value)) ∧
      ∀ template rest key expr value, store.Built → store.find? name = some template →
        template.root = .source (.statement (.assign key expr) :: rest) →
        (store.start registry name template data).eval expr = .ok value →
          ∃ store', store.add { template with root := .source rest } = .ok store' ∧
            store'.render registry sink name (Dict.insert key value data) out =
              store.render registry sink name data out :=
  ⟨Comes.exists_ends, fun _ hcomes => hcomes.eval_var, fun _ _ _ hstep => hstep.made_eq,
    fun _ hcomes hnode _ hopen => hcomes.eval_var_of_binds hnode hopen,
    fun _ _ _ _ _ _ hcomes hnode hvalue hstep hreaches hlater =>
      hcomes.eval_var_of_assign hnode hvalue hstep hreaches hlater,
    fun _ _ _ _ _ hbuilt hfind hroot hvalue =>
      ⟨_, hbuilt.add_rest hfind hroot, render_rest hfind hroot hvalue⟩⟩

/-- The variable of a loop is assigned to before the loop and in each of its iterations. -/
def letterTemplate : Template :=
  ⟨"letter", "1", .source [.statement (.assign "x" (.content "a")), .display (.var "x"),
    .statement (.loop "x" (.var "xs") [.statement (.assign "x" (.content "b")),
      .display (.var "x")]), .display (.var "x")], []⟩

def letterStore : Store where
  templates := [("letter", letterTemplate)]
  maxIncludeDepth := 1
  one_le_maxIncludeDepth := Nat.le_refl 1

def letterData : Dict Value :=
  [("x", .null), ("xs", .array [.string "1", .string "2"])]

theorem render_scoping_letter :
    letterStore.render {} Sink.text "letter" letterData "" = (.ok (), "a12b") ∧
      ∃ store', letterStore.add { letterTemplate with
          root := .source letterTemplate.root.children.tail } = .ok store' ∧
        store'.render {} Sink.text "letter" (Dict.insert "x" (.string "a") letterData) "" =
          (.ok (), "a12b") := by
  have hbuilt : letterStore.Built := by
    have hadd : (withMaxIncludeDepth 1).add letterTemplate = .ok letterStore := rfl
    exact .add (.empty 1) hadd
  have hrender : letterStore.render {} Sink.text "letter" letterData "" = (.ok (), "a12b") := rfl
  obtain ⟨store', hadd, hsame⟩ :=
    (render_scoping letterStore {} Sink.text "letter" letterData "").2.2.2.2.2 letterTemplate
      letterTemplate.root.children.tail "x" (.content "a") (.string "a") hbuilt rfl rfl rfl
  exact ⟨hrender, store', hadd, hsame.trans hrender⟩

end Store

end TemplateEngine
