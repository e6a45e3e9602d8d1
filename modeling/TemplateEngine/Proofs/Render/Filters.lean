import TemplateEngine.Proofs.Markup.Parsing
import TemplateEngine.Proofs.Render.Traces

/-! # Chains of filters

All filters of a chain are looked up before anything is evaluated, the last of them first. Then what
is piped through them is evaluated, and the filters are run from the first to the last. -/

namespace TemplateEngine

namespace Filter

/-- A filter with the name that it is registered under. -/
abbrev Named := String × Filter

def Named.run (named : Named) (value : Value) : Except RenderError Value :=
  (named.2 value).mapError (.filterFailed named.1)

/-- Runs one filter after another, up to the first that fails. -/
def runAll (chain : List Named) (value : Value) : Except RenderError Value :=
  chain.foldlM (fun value named => named.run value) value

/-- The filters of a chain that are run, given what is piped into it. -/
def events : Except RenderError Value → List Named → List Event
  | .ok value, named :: chain => .filters named.1 value :: events (named.run value) chain
  | _, _ => []

theorem events_error (error : RenderError) (chain : List Named) :
    events (.error error) chain = [] := by
  cases chain <;> rfl

end Filter

/-- The filters are those that are registered under their names. -/
def Registry.Knows (registry : Registry) (chain : List Filter.Named) : Prop :=
  ∀ named ∈ chain, registry.filter? named.1 = some named.2

theorem Registry.exists_chain {registry : Registry} {names : List String}
    (h : ∀ name ∈ names, registry.filter? name ≠ none) :
    ∃ chain, registry.Knows chain ∧ chain.map Prod.fst = names := by
  induction names with
  | nil => exact ⟨[], nofun, rfl⟩
  | cons name names ih =>
    obtain ⟨filter, hfilter⟩ := Option.ne_none_iff_exists'.mp (h name List.mem_cons_self)
    obtain ⟨chain, hchain, rfl⟩ := ih fun other hother => h other (List.mem_cons_of_mem _ hother)
    exact ⟨(name, filter) :: chain, List.forall_mem_cons.mpr ⟨hfilter, hchain⟩, rfl⟩

namespace Expr

theorem piped_append (expr : Expr) (names others : List String) :
    expr.piped (names ++ others) = (expr.piped names).piped others :=
  List.foldl_append

/-- The filters of a chain with all that is piped into them, the last of them first. -/
def stages (expr : Expr) : List String → List Expr
  | [] => []
  | name :: names => (Expr.filter name expr).stages names ++ [.filter name expr]

theorem exists_of_mem_stages {expr stage : Expr} {names : List String}
    (h : stage ∈ expr.stages names) : ∃ front, front <+: names ∧ stage = expr.piped front := by
  induction names generalizing expr with
  | nil => cases h
  | cons name names ih =>
    rcases List.mem_append.mp h with hlater | hfirst
    · obtain ⟨front, hfront, rfl⟩ := ih hlater
      exact ⟨name :: front, (List.prefix_cons_inj name).mpr hfront, rfl⟩
    · obtain rfl := List.mem_singleton.mp hfirst
      exact ⟨[name], ⟨names, rfl⟩, rfl⟩

theorem sizeOf_add_length_le_sizeOf_piped (expr : Expr) (names : List String) :
    sizeOf expr + names.length ≤ sizeOf (expr.piped names) := by
  induction names generalizing expr with
  | nil => exact Nat.le_refl _
  | cons name names ih =>
    have hrest := ih (.filter name expr)
    rw [Expr.filter.sizeOf_spec] at hrest
    rw [List.length_cons]
    exact Nat.le_trans (by omega) hrest

theorem piped_ne {expr : Expr} {names : List String} (h : names ≠ []) :
    expr.piped names ≠ expr := by
  intro heq
  have hsize := expr.sizeOf_add_length_le_sizeOf_piped names
  have hlength := List.length_pos_iff.mpr h
  rw [heq] at hsize
  omega

end Expr

namespace Context

variable {context : Context}

theorem eval_filter {name : String} {filter : Filter}
    (h : context.registry.filter? name = some filter) (input : Expr) :
    context.eval (.filter name input) = context.eval input >>= Filter.Named.run (name, filter) := by
  rw [eval, h]
  rfl

theorem eval_filter_of_none {name : String} (h : context.registry.filter? name = none)
    (input : Expr) : context.eval (.filter name input) = .error (.unknownFilter name) := by
  rw [eval, h]

/-- A chain of known filters runs them one after another on the value of its input. -/
theorem eval_piped {chain : List Filter.Named} (h : context.registry.Knows chain) (expr : Expr) :
    context.eval (expr.piped (chain.map Prod.fst)) =
      context.eval expr >>= Filter.runAll chain := by
  induction chain generalizing expr with
  | nil => exact (bind_pure _).symm
  | cons named chain ih =>
    obtain ⟨hnamed, hchain⟩ := List.forall_mem_cons.mp h
    have hrest := ih hchain (.filter named.1 expr)
    rw [eval_filter hnamed, bind_assoc] at hrest
    exact hrest

theorem events_trace_filter {name : String} {filter : Filter}
    (h : context.registry.filter? name = some filter) (input : Expr) (chain : List Filter.Named) :
    (context.trace (.filter name input)).events ++
        Filter.events (context.eval (.filter name input)) chain =
      .evaluates (.filter name input) :: ((context.trace input).events ++
        Filter.events (context.eval input) ((name, filter) :: chain)) := by
  rw [trace, Traced.record_bind, h, eval_filter h, List.cons_append]
  cases hinput : context.eval input with
  | error error =>
    have hresult := (context.result_trace input).trans hinput
    rw [Traced.events_bind_of_error hresult, Filter.events_error]
    exact congrArg (_ :: _ ++ ·) (Filter.events_error error chain)
  | ok value =>
    have hresult := (context.result_trace input).trans hinput
    rw [Traced.events_bind_of_ok hresult, Traced.record_bind, ok_bind, List.append_assoc,
      Filter.events]
    rfl

/-- Nothing is evaluated before all known filters of a chain have been looked up, and no filter is
run before its input has a value. -/
theorem events_trace_piped {chain : List Filter.Named} (h : context.registry.Knows chain)
    (expr : Expr) :
    (context.trace (expr.piped (chain.map Prod.fst))).events =
      (expr.stages (chain.map Prod.fst)).map .evaluates ++
        ((context.trace expr).events ++ Filter.events (context.eval expr) chain) := by
  induction chain generalizing expr with
  | nil =>
    have hnone : Filter.events (context.eval expr) [] = [] := by
      cases context.eval expr <;> rfl
    rw [hnone, List.append_nil]
    rfl
  | cons named chain ih =>
    obtain ⟨hnamed, hchain⟩ := List.forall_mem_cons.mp h
    have hrest := ih hchain (.filter named.1 expr)
    rw [events_trace_filter hnamed] at hrest
    rw [List.map_cons, Expr.stages, List.map_append, List.append_assoc]
    exact hrest

/-- A chain with an unknown filter gives an error once the filters after it have been looked up, and
that is all that happens. -/
theorem eval_piped_of_none {name : String} (hname : context.registry.filter? name = none)
    {after : List String} (hafter : ∀ other ∈ after, context.registry.filter? other ≠ none)
    (expr : Expr) (before : List String) :
    context.eval (expr.piped (before ++ name :: after)) = .error (.unknownFilter name) ∧
      ∀ event ∈ (context.trace (expr.piped (before ++ name :: after))).events,
        ∃ front, front <+: after ∧ event = .evaluates (expr.piped (before ++ name :: front)) := by
  obtain ⟨chain, hchain, rfl⟩ := Registry.exists_chain hafter
  have hpiped : ∀ names, expr.piped (before ++ name :: names) =
      (Expr.filter name (expr.piped before)).piped names := fun names => expr.piped_append _ _
  have hunknown := eval_filter_of_none hname (expr.piped before)
  simp only [hpiped]
  rw [eval_piped hchain, events_trace_piped hchain, events_trace_filter_of_none context hname,
    hunknown, Filter.events_error]
  refine ⟨rfl, fun event hevent => ?_⟩
  rw [List.append_nil, List.mem_append, List.mem_singleton] at hevent
  rcases hevent with hlater | rfl
  · obtain ⟨stage, hstage, rfl⟩ := List.mem_map.mp hlater
    obtain ⟨front, hfront, rfl⟩ := Expr.exists_of_mem_stages hstage
    exact ⟨front, hfront, rfl⟩
  · exact ⟨[], List.nil_prefix, rfl⟩

end Context

namespace Markup

/-- In a call a chain is read as it is elsewhere. -/
theorem parse_display_call {function before text after : List Char} {expr : Expr}
    (hfunction : IsIdent function) (hbefore : Blanks before) (hchain : ChainText text expr)
    (hafter : Blanks after) (hnesting : expr.nesting < maxNesting) :
    parse (String.ofList ('\x7b' :: '\x7b' :: (function ++ '(' ::
        (before ++ (text ++ (after ++ [')', '\x7d', '\x7d'])))))) =
      .ok (.source [.display (.function (String.ofList function) [.value none expr])]) := by
  have hcall : ChainText (function ++ '(' :: (before ++ (text ++ after) ++ [')']) ++ [])
      (.function (String.ofList function) [.value none expr]) :=
    .piped (.name hfunction (.call (.last hbefore (.positional hchain) hafter) List.nodup_nil)) .nil
  have hparse := parse_display .nil hcall .nil (by
    simp only [Expr.nesting, Argument.nestings, Argument.nesting]
    omega)
  simpa using hparse

theorem NodesText.exists_tag {text : List Char} {nodes : List Node} (h : NodesText text nodes)
    {shown : Expr} (hshown : Node.display shown ∈ nodes) :
    ∃ tag, TagText tag (.display shown) ∧ tag <:+: text := by
  have hraw : ∀ raw, Node.display shown ∉ contentOf raw := by
    intro raw hmem
    unfold contentOf at hmem
    split_ifs at hmem <;> simp at hmem
  induction h with
  | @raw raw _ => exact absurd hshown (hraw raw)
  | @tag raw tag rest node nodes _ first _ ih =>
    rcases List.mem_append.mp hshown with hcontent | hnode
    · exact absurd hcontent (hraw raw)
    · rcases List.mem_cons.mp hnode with rfl | hrest
      · exact ⟨tag, first, List.infix_append' raw tag rest⟩
      · obtain ⟨inner, hinner, hinfix⟩ := ih hrest
        exact ⟨inner, hinner, hinfix.trans ⟨raw ++ tag, [], by simp⟩⟩

/-- Every display tag of markup is read as a chain. -/
theorem exists_chain_of_parse {source : String} {nodes : List Node} {shown : Expr}
    (h : parse source = .ok (.source nodes)) (hshown : Node.display shown ∈ nodes) :
    ∃ before text pipes after expr names, Blanks before ∧ PrimaryText text expr ∧
      PipesText pipes names ∧ Blanks after ∧ shown = expr.piped names ∧
      '\x7b' :: '\x7b' :: (before ++ (text ++ pipes ++ (after ++ ['\x7d', '\x7d']))) <:+:
        source.toList := by
  obtain ⟨_, heq, htext, -⟩ := exists_nodesText_of_parse h
  obtain rfl := Node.source.inj heq
  obtain ⟨tag, htag, hinfix⟩ := htext.exists_tag hshown
  cases htag with
  | @display before _ after _ hbefore chain hafter =>
    cases chain with
    | @piped text pipes expr names primary filters =>
      exact ⟨before, text, pipes, after, expr, names, hbefore, primary, filters, hafter, rfl,
        hinfix⟩

end Markup

/-- A chain of filters is looked up before it is run, and run from left to right. If a filter is
unknown, the last such one is the error, and neither what is piped into the chain is evaluated nor
any filter run. If all are known, what is piped is evaluated and handed from one filter to the next
until one fails. Markup, with or without blanks around the pipes, is read as such a chain wherever
it stands. -/
theorem Context.eval_piped_resolves_first (context : Context) (expr : Expr) :
    (∀ before name after, context.registry.filter? name = none →
      (∀ other ∈ after, context.registry.filter? other ≠ none) →
        let names := before ++ name :: after
        context.eval (expr.piped names) = .error (.unknownFilter name) ∧
          ∀ event ∈ (context.trace (expr.piped names)).events, event ≠ .evaluates expr ∧
            ∃ front, front <+: after ∧
              event = .evaluates (expr.piped (before ++ name :: front))) ∧
    (∀ chain, context.registry.Knows chain →
      let names := chain.map Prod.fst
      (∀ error, context.eval expr = .error error →
        context.eval (expr.piped names) = .error error) ∧
      (∀ value, context.eval expr = .ok value →
        context.eval (expr.piped names) = Filter.runAll chain value ∧
          ∀ before name filter after reached reason, chain = before ++ (name, filter) :: after →
            Filter.runAll before value = .ok reached → filter reached = .error reason →
              context.eval (expr.piped names) = .error (.filterFailed name reason)) ∧
      (context.trace (expr.piped names)).events = (expr.stages names).map .evaluates ++
        ((context.trace expr).events ++ Filter.events (context.eval expr) chain)) ∧
    (∀ before text pipes after names, Markup.Blanks before → Markup.PrimaryText text expr →
      Markup.PipesText pipes names → Markup.Blanks after →
        (expr.nesting ≤ Markup.maxNesting →
          Markup.parse (String.ofList ('\x7b' :: '\x7b' ::
              (before ++ (text ++ pipes ++ (after ++ ['\x7d', '\x7d']))))) =
            .ok (.source [.display (expr.piped names)])) ∧
        ∀ function, Markup.IsIdent function → expr.nesting < Markup.maxNesting →
          Markup.parse (String.ofList ('\x7b' :: '\x7b' :: (function ++ '(' ::
              (before ++ (text ++ pipes ++ (after ++ [')', '\x7d', '\x7d'])))))) =
            .ok (.source [.display (.function (String.ofList function)
              [.value none (expr.piped names)])])) ∧
    ∀ source nodes shown, Markup.parse source = .ok (.source nodes) → .display shown ∈ nodes →
      ∃ before text pipes after expr names, Markup.Blanks before ∧ Markup.PrimaryText text expr ∧
        Markup.PipesText pipes names ∧ Markup.Blanks after ∧ shown = expr.piped names ∧
        '\x7b' :: '\x7b' :: (before ++ (text ++ pipes ++ (after ++ ['\x7d', '\x7d']))) <:+:
          source.toList := by
  refine ⟨fun before name after hname hafter => ?_, fun chain hchain => ⟨fun error herror => ?_,
    fun value hvalue => ⟨?_, ?_⟩, Context.events_trace_piped hchain expr⟩, ?_,
    fun source nodes shown hparse hshown => Markup.exists_chain_of_parse hparse hshown⟩
  · obtain ⟨heval, hevents⟩ := eval_piped_of_none hname hafter expr before
    refine ⟨heval, fun event hevent => ?_⟩
    obtain ⟨front, hfront, rfl⟩ := hevents event hevent
    have hne : before ++ name :: front ≠ [] :=
      List.append_ne_nil_of_right_ne_nil before (List.cons_ne_nil name front)
    exact ⟨fun heq => Expr.piped_ne hne (Event.evaluates.inj heq), front, hfront, rfl⟩
  · rw [eval_piped hchain, herror]
    rfl
  · rw [eval_piped hchain, hvalue, ok_bind]
  · intro before name filter after reached reason hsplit hbefore hreason
    rw [eval_piped hchain, hvalue, ok_bind, Filter.runAll, foldlM_eq_error_iff]
    refine ⟨before, (name, filter), after, reached, hsplit, hbefore, ?_⟩
    exact congrArg (Except.mapError (RenderError.filterFailed name)) hreason
  · intro before text pipes after names hbefore hprimary hpipes hafter
    have hchain := Markup.ChainText.piped hprimary hpipes
    rw [← expr.nesting_piped names]
    exact ⟨Markup.parse_display hbefore hchain hafter, fun function hfunction =>
      Markup.parse_display_call hfunction hbefore hchain hafter⟩

def shout : Filter := fun value => .ok (.string (value.display ++ "!"))

def refuse : Filter := fun _ => .error "no"

def shoutContext : Context where
  data := [("a", .string "Hi")]
  blocks := []
  registry := { filters := Dict.ofEntries [("shout", shout), ("refuse", refuse)] }
  store := {}
  entry := "page"

theorem Context.eval_piped_resolves_first_shout :
    shoutContext.eval ((Expr.var "b").piped ["loud", "hush", "shout"]) =
        .error (.unknownFilter "hush") ∧
      shoutContext.eval ((Expr.var "a").piped ["shout", "shout"]) = .ok (.string "Hi!!") ∧
      shoutContext.eval ((Expr.var "a").piped ["shout", "refuse", "shout"]) =
        .error (.filterFailed "refuse" "no") ∧
      shoutContext.eval ((Expr.var "b").piped ["shout", "refuse"]) =
        .error (.unknownVariable "b") ∧
      Markup.parse "{{a| f|g }}" =
        .ok (.source [.display ((Expr.var "a").piped ["f", "g"])]) := by
  have hknows : ∀ chain : List Filter.Named,
      (∀ named ∈ chain, named = ("shout", shout) ∨ named = ("refuse", refuse)) →
        shoutContext.registry.Knows chain := by
    intro chain h named hnamed
    rcases h named hnamed with rfl | rfl <;> rfl
  have hblank : Markup.Blanks [' '] := by
    intro c hc
    rw [List.mem_singleton.mp hc]
    decide +kernel
  have ha : Markup.IsIdent ['a'] := ⟨'a', [], rfl, by decide +kernel, nofun⟩
  have hf : Markup.IsIdent ['f'] := ⟨'f', [], rfl, by decide +kernel, nofun⟩
  have hg : Markup.IsIdent ['g'] := ⟨'g', [], rfl, by decide +kernel, nofun⟩
  have hpipes : Markup.PipesText ['|', ' ', 'f', '|', 'g'] ["f", "g"] :=
    .cons .nil hblank hf (.cons .nil .nil hg .nil)
  obtain ⟨-, hchain, hmarkup, -⟩ := eval_piped_resolves_first shoutContext (.var "a")
  obtain ⟨hnone, hmissing, -⟩ := eval_piped_resolves_first shoutContext (.var "b")
  refine ⟨?_, ?_, ?_, ?_, ?_⟩
  · exact (hnone ["loud"] "hush" ["shout"] rfl (List.forall_mem_singleton.mpr nofun)).1
  · exact ((hchain [("shout", shout), ("shout", shout)] (hknows _ (by simp))).2.1 _ rfl).1
  · exact ((hchain [("shout", shout), ("refuse", refuse), ("shout", shout)]
      (hknows _ (by simp))).2.1 _ rfl).2 [("shout", shout)] "refuse" refuse [("shout", shout)] _ _
        rfl rfl rfl
  · exact (hmissing [("shout", shout), ("refuse", refuse)] (hknows _ (by simp))).1 _ rfl
  · exact (hmarkup [] ['a'] ['|', ' ', 'f', '|', 'g'] [' '] ["f", "g"] .nil
      (.name ha .nothing) hpipes hblank).1 (Nat.zero_le _)

end TemplateEngine
