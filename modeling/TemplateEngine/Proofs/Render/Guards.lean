import Mathlib.Data.List.Chain
import TemplateEngine.Proofs.Node.Mentions
import TemplateEngine.Proofs.Render.Levels

/-! # Guards against endless recursion

The chain of includes and the overrides that are being expanded are kept free of repetitions, and
where they would repeat a name the error tells which. A name joins the chain from an include that
stands in the template before it, or else in a block of the entry. -/

namespace TemplateEngine

section

variable (store : Store) (blocks : BlockMap)

/-- The name stands in an include of the previous template or of one of the blocks. -/
def Store.Leads (previous name : String) : Prop :=
  (∃ template, store.find? previous = some template ∧ .inclusion name ∈ template.root.mentions) ∨
    ∃ block nodes, Dict.find? blocks block = some nodes ∧ .inclusion name ∈ Node.allMentions nodes

/-- The chains that includes can make. -/
structure Store.AllowsChain (chain : List String) : Prop where
  nodup : chain.Nodup
  registered : ∀ name ∈ chain, (store.find? name).isSome
  leads : chain.IsChain (store.Leads blocks)
  length_le : chain.length ≤ store.maxIncludeDepth

/-- The last name is one of those before, which are all different. -/
def ComesBack (chain : List String) : Prop :=
  ∃ front last, chain = front ++ [last] ∧ front.Nodup ∧ last ∈ front

end

section

variable {store : Store} {blocks : BlockMap} {chain : List String} {name : String}

namespace Store.AllowsChain

theorem singleton (h : (store.find? name).isSome) : store.AllowsChain blocks [name] where
  nodup := List.nodup_singleton name
  registered := List.forall_mem_singleton.mpr h
  leads := .singleton name
  length_le := store.one_le_maxIncludeDepth

theorem append (h : store.AllowsChain blocks chain) (hmem : name ∉ chain)
    (hregistered : (store.find? name).isSome)
    (hleads : ∀ previous ∈ chain.getLast?, store.Leads blocks previous name)
    (hlength : chain.length < store.maxIncludeDepth) :
    store.AllowsChain blocks (chain ++ [name]) where
  nodup := List.nodup_append.mpr ⟨h.nodup, List.nodup_singleton name, by
    rintro previous hprevious _ hname rfl
    exact hmem (List.mem_singleton.mp hname ▸ hprevious)⟩
  registered := by
    intro other hother
    rcases List.mem_append.mp hother with hchain | hname
    · exact h.registered other hchain
    · exact List.mem_singleton.mp hname ▸ hregistered
  leads := List.isChain_append.mpr ⟨h.leads, .singleton name, by simpa using hleads⟩
  length_le := by
    rw [List.length_append, List.length_singleton]
    omega

theorem of_append {others : List String} (h : store.AllowsChain blocks (chain ++ others)) :
    store.AllowsChain blocks chain where
  nodup := h.nodup.of_append_left
  registered name hname := h.registered name (List.mem_append_left _ hname)
  leads := (List.isChain_append.mp h.leads).1
  length_le := by
    have hlength := h.length_le
    rw [List.length_append] at hlength
    omega

end Store.AllowsChain

theorem ComesBack.append (hnodup : chain.Nodup) (hmem : name ∈ chain) :
    ComesBack (chain ++ [name]) :=
  ⟨chain, name, rfl, hnodup, hmem⟩

end

namespace Context

variable {context : Context} {name : String} {error : RenderError}

theorem enterInclude_eq_error (h : context.enterInclude name = .error error) :
    (name ∈ context.includeChain ∧ error = .circularInclude (context.includeChain ++ [name])) ∨
      (name ∉ context.includeChain ∧
        context.store.maxIncludeDepth ≤ context.includeChain.length ∧
        error = .includeDepthExceeded context.store.maxIncludeDepth) := by
  unfold enterInclude at h
  split_ifs at h with hmem hdepth
  · exact .inl ⟨hmem, (Except.error.inj h).symm⟩
  · exact .inr ⟨hmem, hdepth, (Except.error.inj h).symm⟩

theorem enterYield_eq_error (h : context.enterYield name = .error error) :
    name ∈ context.yields ∧ error = .recursiveYield (context.yields.reverse ++ [name]) := by
  unfold enterYield at h
  split_ifs at h with hmem
  exact ⟨hmem, (Except.error.inj h).symm⟩

theorem Guarded.leaveYield (h : context.Guarded) : context.leaveYield.Guarded where
  nodup := h.nodup.sublist (List.tail_sublist _)
  known name hname := h.known name (List.mem_of_mem_tail hname)

def innermost (context : Context) : String :=
  context.included.head?.getD context.entry

theorem getLast?_includeChain (context : Context) :
    context.includeChain.getLast? = some context.innermost := by
  unfold includeChain innermost
  cases context.included with
  | nil => rfl
  | cons name included => simp [List.getLast?_cons]

theorem includeChain_cons (context : Context) (name : String) :
    ({ context with included := name :: context.included } : Context).includeChain =
      context.includeChain ++ [name] := by
  unfold includeChain
  rw [List.reverse_cons, List.cons_append]

theorem includeChain_eq_append_leave (context : Context) :
    ∃ others, context.includeChain = context.leaveInclude.includeChain ++ others := by
  unfold leaveInclude includeChain
  cases context.included with
  | nil => exact ⟨[], rfl⟩
  | cons name included => exact ⟨[name], by simp⟩

end Context

def Level.mentions : Level → List Mention
  | .nodes _ todo => Node.allMentions todo
  | .loop _ _ body _ => Node.allMentions body

/-- An include that a level comes to stands in the template around the level, or in a block. -/
def Context.Supplies (start : Context) : List Level → Prop
  | [] => True
  | level :: levels =>
    (∀ name, .inclusion name ∈ level.mentions →
      start.store.Leads start.blocks (start.along (level :: levels) []).innermost name) ∧
      start.Supplies levels

theorem Context.Supplies.tail {start : Context} {entry : Entry} {node : Node} {todo : List Node}
    {levels : List Level} (h : start.Supplies (.nodes entry (node :: todo) :: levels)) :
    start.Supplies (.nodes entry todo :: levels) :=
  ⟨fun name hmem => h.1 name (List.mem_append_right _ hmem), h.2⟩

namespace Moment

/-- What holds in every moment: the context fits the levels and passes its guards. -/
structure Secure {σ : Type} (start : Context) (moment : Moment σ) : Prop where
  fits : moment.Fits start
  guarded : moment.context.Guarded
  allowed : start.store.AllowsChain start.blocks moment.context.includeChain
  supplied : start.Supplies moment.levels

section

variable {σ : Type} {sink : Sink σ} {start : Context} {moment next : Moment σ}

/-- An include stands in the template around it or, inside an override, in a block of the entry. -/
theorem Secure.step (h : moment.Secure start) (hstep : Step sink moment next) :
    next.Secure start := by
  have hfits := h.fits.step hstep
  obtain ⟨hcontext, hguarded, hallowed, hsupplied⟩ := h
  cases hstep with
  | pass heffect =>
    cases Node.does_of_effect_eq heffect with
    | passes => exact ⟨hfits, hguarded, hallowed, hsupplied.tail⟩
    | assigns _ => exact ⟨hfits, ⟨hguarded.nodup, hguarded.known⟩, hallowed, hsupplied.tail⟩
  | @enter _ todo nodes entry _ levels context _ _ made heffect =>
    obtain rfl : context = start.along (.nodes entry todo :: levels) made := hcontext
    cases Node.does_of_effect_eq heffect with
    | inside _ hmentions =>
      refine ⟨hfits, hguarded, hallowed, fun name hmem => ?_, hsupplied.tail⟩
      exact hsupplied.1 name (List.mem_append_left _ (hmentions hmem))
    | @includes name template _ hfind henter =>
      have hguarded' := (hguarded.enterInclude henter).1
      obtain ⟨hmem, hdepth, rfl⟩ := Context.enterInclude_eq_ok henter
      have hregistered : (start.store.find? name).isSome := Option.isSome_of_mem hfind
      refine ⟨hfits, hguarded', ?_, fun other hother => ?_, hsupplied.tail⟩
      · rw [Context.includeChain_cons]
        refine hallowed.append hmem hregistered (fun previous hprevious => ?_) hdepth
        rw [Context.getLast?_includeChain] at hprevious
        obtain rfl := Option.mem_some.mp hprevious
        exact hsupplied.1 name (List.mem_append_left _ (List.mem_singleton_self _))
      · exact .inl ⟨template, hfind, template.root.allMentions_singleton ▸ hother⟩
    | @overrides name _ _ _ hblock henter =>
      have hguarded' := (hguarded.enterYield hblock henter).1
      obtain ⟨-, rfl⟩ := Context.enterYield_eq_ok henter
      exact ⟨hfits, hguarded', hallowed, fun other hother => .inr ⟨name, nodes, hblock, hother⟩,
        hsupplied.tail⟩
  | loop heffect =>
    cases Node.does_of_effect_eq heffect with
    | loops =>
      refine ⟨hfits, hguarded, hallowed, fun name hmem => ?_, hsupplied.tail⟩
      exact hsupplied.1 name (List.mem_append_left _ (List.mem_append_right _ hmem))
  | iterate => exact ⟨hfits, ⟨hguarded.nodup, hguarded.known⟩, hallowed, hsupplied.1, hsupplied⟩
  | finish => exact ⟨hfits, hguarded, hallowed, hsupplied.2⟩
  | @leave entry _ context =>
    have hguarded' : (entry.leave context).Guarded := by
      cases entry with
      | inside => exact hguarded
      | inclusion _ => exact ⟨hguarded.nodup, hguarded.known⟩
      | override _ => exact hguarded.leaveYield
      | iteration _ => exact ⟨hguarded.nodup, hguarded.known⟩
    have hallowed' : start.store.AllowsChain start.blocks (entry.leave context).includeChain := by
      cases entry with
      | inside => exact hallowed
      | inclusion _ =>
        obtain ⟨others, hchain⟩ := context.includeChain_eq_append_leave
        dsimp only at hallowed
        rw [hchain] at hallowed
        exact hallowed.of_append
      | override _ => exact hallowed
      | iteration _ => exact hallowed
    exact ⟨hfits, hguarded', hallowed', hsupplied.2⟩

theorem Secure.leads (h : moment.Secure start) {name : String}
    (hnode : moment.node? = some (.inclusion name)) :
    start.store.Leads start.blocks moment.context.innermost name := by
  obtain ⟨entry, todo, below, hlevels⟩ := exists_of_node? hnode
  have hsupplied := h.supplied
  rw [hlevels] at hsupplied
  rw [h.fits, hlevels]
  exact hsupplied.1 name (List.mem_append_left _ (List.mem_singleton_self _))

end

end Moment

namespace Store

variable {σ : Type} {store : Store} {registry : Registry} {sink : Sink σ} {name : String}
  {data : Dict Value} {out : σ} {moment : Moment σ}

theorem Comes.secure (h : store.Comes registry sink name data out moment) :
    ∃ template, store.find? name = some template ∧
      moment.Secure (store.start registry name template data) := by
  obtain ⟨template, hfind, hreaches⟩ := h
  refine ⟨template, hfind, hreaches.keeps (Moment.Secure _) (fun h => h.step) ?_⟩
  exact {
    fits := rfl
    guarded := ⟨List.nodup_nil, nofun⟩
    allowed := .singleton (Option.isSome_of_mem hfind)
    supplied := ⟨fun other hmem =>
      .inl ⟨template, hfind, template.root.allMentions_singleton ▸ hmem⟩, trivial⟩ }

/-- An error of a guard arises where the guard refuses an include or an override. -/
theorem exists_refused {error : RenderError} (herror : error.OfNesting)
    (h : (store.render registry sink name data out).1 = .error error) :
    ∃ moment, store.Comes registry sink name data out moment ∧
      moment.Ends sink (store.render registry sink name data out) ∧
      ((∃ included, moment.node? = some (.inclusion included) ∧
          (store.find? included).isSome ∧
          moment.context.enterInclude included = .error error) ∨
        ∃ block, (moment.context.block? block).isSome ∧
          moment.context.enterYield block = .error error) := by
  obtain ⟨-, rfl⟩ | ⟨moment, node, out', hcomes, hends, hnode, hdoes⟩ :=
    exists_of_render_eq_error h
  · cases herror
  · refine ⟨moment, hcomes, hends, ?_⟩
    obtain ⟨template, -, hsecure⟩ := hcomes.secure
    cases hdoes with
    | fails hother => exact absurd herror hother
    | refusesInclude hfind henter =>
      rw [hsecure.fits.store] at hfind
      exact .inl ⟨_, hnode, Option.isSome_of_mem hfind, henter⟩
    | refusesOverride hblock henter => exact .inr ⟨_, Option.isSome_of_mem hblock, henter⟩

theorem Comes.render_eq_unknownTemplate {included : String}
    (h : store.Comes registry sink name data out moment)
    (hnode : moment.node? = some (.inclusion included)) (hfind : store.find? included = none) :
    store.render registry sink name data out =
      (.error (.unknownTemplate included), moment.out) := by
  obtain ⟨template, -, hsecure⟩ := h.secure
  have hstore : moment.context.store = store := hsecure.fits.store
  refine h.render_eq (Moment.ends_of_node? hnode ?_)
  rw [Node.effect, hstore, hfind]

theorem Comes.render_eq_circularInclude {included : String}
    (h : store.Comes registry sink name data out moment)
    (hnode : moment.node? = some (.inclusion included))
    (hmem : included ∈ moment.context.includeChain) :
    store.render registry sink name data out =
      (.error (.circularInclude (moment.context.includeChain ++ [included])), moment.out) := by
  obtain ⟨template, -, hsecure⟩ := h.secure
  have hstore : moment.context.store = store := hsecure.fits.store
  obtain ⟨found, hfind⟩ := Option.isSome_iff_exists.mp (hsecure.allowed.registered included hmem)
  refine h.render_eq (Moment.ends_of_node? hnode ?_)
  have hfound : store.find? included = some found := hfind
  rw [Node.effect, hstore, hfound, Context.enterInclude, if_pos hmem]
  rfl

theorem circularInclude_of_render {chain : List String}
    (h : (store.render registry sink name data out).1 = .error (.circularInclude chain)) :
    ∃ template, store.find? name = some template ∧ chain.head? = some name ∧
      ComesBack chain ∧ chain.IsChain (store.Leads template.blocks) ∧
      chain.length ≤ store.maxIncludeDepth + 1 := by
  obtain ⟨moment, hcomes, -, ⟨included, hnode, -, henter⟩ | ⟨block, -, henter⟩⟩ :=
    exists_refused (.circularInclude chain) h
  · obtain ⟨template, hfind, hsecure⟩ := hcomes.secure
    obtain ⟨hmem, heq⟩ | ⟨-, -, heq⟩ := Context.enterInclude_eq_error henter
    · cases heq
      have hentry : moment.context.entry = name := hsecure.fits.entry
      refine ⟨template, hfind, ?_, .append hsecure.allowed.nodup hmem, ?_, ?_⟩
      · rw [Context.includeChain, hentry]
        rfl
      · have hleads : store.Leads template.blocks moment.context.innermost included :=
          hsecure.leads hnode
        refine List.isChain_append.mpr ⟨hsecure.allowed.leads, .singleton included, ?_⟩
        rw [Context.getLast?_includeChain]
        simpa using hleads
      · rw [List.length_append]
        exact Nat.add_le_add_right hsecure.allowed.length_le 1
    · cases heq
  · cases (Context.enterYield_eq_error henter).2

theorem recursiveYield_of_render {chain : List String}
    (h : (store.render registry sink name data out).1 = .error (.recursiveYield chain)) :
    ∃ template, store.find? name = some template ∧ ComesBack chain ∧
      (∀ block ∈ chain, block ∈ Dict.keys template.blocks) ∧
      chain.length ≤ template.blocks.length + 1 := by
  obtain ⟨moment, hcomes, -, ⟨included, -, -, henter⟩ | ⟨block, -, henter⟩⟩ :=
    exists_refused (.recursiveYield chain) h
  · obtain ⟨-, heq⟩ | ⟨-, -, heq⟩ := Context.enterInclude_eq_error henter <;> cases heq
  · obtain ⟨template, hfind, hsecure⟩ := hcomes.secure
    have hblocks : moment.context.blocks = template.blocks := hsecure.fits.blocks
    have hknown := hblocks ▸ hsecure.guarded.known
    have hlength := (hsecure.guarded.nodup.subperm hknown).length_le
    obtain ⟨hmem, heq⟩ := Context.enterYield_eq_error henter
    cases heq
    refine ⟨template, hfind, .append (List.nodup_reverse.mpr hsecure.guarded.nodup)
      (List.mem_reverse.mpr hmem), fun other hother => ?_, ?_⟩
    · rcases List.mem_append.mp hother with hyields | hlast
      · exact hknown other (List.mem_reverse.mp hyields)
      · exact List.mem_singleton.mp hlast ▸ hknown block hmem
    · rw [Dict.keys, List.length_map] at hlength
      simpa using hlength

theorem includeDepthExceeded_of_render {limit : Nat}
    (h : (store.render registry sink name data out).1 = .error (.includeDepthExceeded limit)) :
    limit = store.maxIncludeDepth ∧
      ∃ moment included, store.Comes registry sink name data out moment ∧
        moment.Ends sink (store.render registry sink name data out) ∧
        moment.node? = some (.inclusion included) ∧
        moment.context.includeChain.length = limit ∧
        (store.find? included).isSome ∧ included ∉ moment.context.includeChain := by
  obtain ⟨moment, hcomes, hends, ⟨included, hnode, hregistered, henter⟩ | ⟨block, -, henter⟩⟩ :=
    exists_refused (.includeDepthExceeded limit) h
  · obtain ⟨template, hfind, hsecure⟩ := hcomes.secure
    have hstore : moment.context.store = store := hsecure.fits.store
    obtain ⟨-, heq⟩ | ⟨hmem, hdepth, heq⟩ := Context.enterInclude_eq_error henter
    · cases heq
    · cases heq
      rw [hstore] at hdepth ⊢
      have hlength : moment.context.includeChain.length = store.maxIncludeDepth :=
        Nat.le_antisymm hsecure.allowed.length_le hdepth
      exact ⟨rfl, moment, included, hcomes, hends, hnode, hlength, hregistered, hmem⟩
  · cases (Context.enterYield_eq_error henter).2

variable (store registry sink name data out)

/-- The guards hold throughout a render, and its errors tell where they would not. -/
theorem render_guards :
    ((store.find? name).isSome → ∃ last, store.Comes registry sink name data out last ∧
        last.Ends sink (store.render registry sink name data out)) ∧
      (∀ moment, store.Comes registry sink name data out moment →
        ∃ template, store.find? name = some template ∧
          moment.context.includeChain.head? = some name ∧
          store.AllowsChain template.blocks moment.context.includeChain ∧
          moment.context.yields.Nodup ∧
          ∀ block ∈ moment.context.yields, block ∈ Dict.keys template.blocks) ∧
      (∀ chain, (store.render registry sink name data out).1 = .error (.circularInclude chain) →
        ∃ template, store.find? name = some template ∧ chain.head? = some name ∧
          ComesBack chain ∧ chain.IsChain (store.Leads template.blocks) ∧
          chain.length ≤ store.maxIncludeDepth + 1) ∧
      (∀ chain, (store.render registry sink name data out).1 = .error (.recursiveYield chain) →
        ∃ template, store.find? name = some template ∧ ComesBack chain ∧
          (∀ block ∈ chain, block ∈ Dict.keys template.blocks) ∧
          chain.length ≤ template.blocks.length + 1) ∧
      (∀ limit, (store.render registry sink name data out).1 =
          .error (.includeDepthExceeded limit) →
        limit = store.maxIncludeDepth ∧
          ∃ moment included, store.Comes registry sink name data out moment ∧
            moment.Ends sink (store.render registry sink name data out) ∧
            moment.node? = some (.inclusion included) ∧
            moment.context.includeChain.length = limit ∧
            (store.find? included).isSome ∧ included ∉ moment.context.includeChain) ∧
      ∀ moment included, store.Comes registry sink name data out moment →
        moment.node? = some (.inclusion included) →
          (store.find? included = none →
            store.render registry sink name data out =
              (.error (.unknownTemplate included), moment.out)) ∧
          (included ∈ moment.context.includeChain →
            store.render registry sink name data out =
              (.error (.circularInclude (moment.context.includeChain ++ [included])),
                moment.out)) := by
  refine ⟨Comes.exists_ends, fun moment hcomes => ?_, fun _ => circularInclude_of_render,
    fun _ => recursiveYield_of_render, fun _ => includeDepthExceeded_of_render,
    fun moment included hcomes hnode =>
      ⟨hcomes.render_eq_unknownTemplate hnode, hcomes.render_eq_circularInclude hnode⟩⟩
  obtain ⟨template, hfind, hsecure⟩ := hcomes.secure
  have hentry : moment.context.entry = name := hsecure.fits.entry
  have hblocks : moment.context.blocks = template.blocks := hsecure.fits.blocks
  refine ⟨template, hfind, ?_, hsecure.allowed, hsecure.guarded.nodup,
    hblocks ▸ hsecure.guarded.known⟩
  rw [Context.includeChain, hentry]
  rfl

/-- The block of the page fills the layout that the page includes, and includes the page. -/
def ring : Store where
  templates := [
    ("layout", ⟨"layout", "1", .source [.statement (.yield "main" [])], []⟩),
    ("page", ⟨"page", "1", .source [.inclusion "layout", .block "main" [.inclusion "page"]],
      [("main", [.inclusion "page"])]⟩)]

theorem render_guards_ring :
    (ring.render {} Sink.text "page" [] "").1 =
        .error (.circularInclude ["page", "layout", "page"]) ∧
      ∃ template, ring.find? "page" = some template ∧
        ["page", "layout", "page"].IsChain (ring.Leads template.blocks) := by
  have hrender : (ring.render {} Sink.text "page" [] "").1 =
      .error (.circularInclude ["page", "layout", "page"]) := rfl
  obtain ⟨template, hfind, -, -, hleads, -⟩ :=
    (render_guards ring {} Sink.text "page" [] "").2.2.1 _ hrender
  exact ⟨hrender, template, hfind, hleads⟩

end Store

end TemplateEngine
