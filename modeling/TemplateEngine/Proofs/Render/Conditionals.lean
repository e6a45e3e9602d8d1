import TemplateEngine.Proofs.Render.Running
import TemplateEngine.Proofs.Render.Unchained

/-! # Conditionals pick their first true branch

A conditional with its else-ifs is a row of tests with a body each, and perhaps a body for when no
test is true. The tests are tried in turn, and the first that is true decides. -/

namespace TemplateEngine

mutual

/-- The tests of a conditional in turn, each with its body. -/
def Cond.arms : Cond → List (Expr × List Node)
  | .mk test consequence alternative => (test, consequence) :: alternative.arms

def CondAlternative.arms : CondAlternative → List (Expr × List Node)
  | .nothing => []
  | .elseIf cond => cond.arms
  | .otherwise _ => []

end

mutual

/-- The body of the else at the end of a conditional, if it has one. -/
def Cond.last? : Cond → Option (List Node)
  | .mk _ _ alternative => alternative.last?

def CondAlternative.last? : CondAlternative → Option (List Node)
  | .nothing => none
  | .elseIf cond => cond.last?
  | .otherwise body => some body

end

namespace Context

variable {context : Context}

/-- The test has a value, which is not true. -/
def Refutes (context : Context) (test : Expr) : Prop :=
  ∃ value, context.eval test = .ok value ∧ value.isTruthy = false

/-- The body of the first arm whose test is true, or else the last body. -/
def pick (context : Context) (last : List Node) :
    List (Expr × List Node) → Except RenderError (List Node)
  | [] => .ok last
  | (test, body) :: arms => do
    let value ← context.eval test
    if value.isTruthy then return body else context.pick last arms

mutual

theorem branch_eq_pick : ∀ cond : Cond,
    context.branch cond = context.pick (cond.last?.getD []) cond.arms
  | .mk test consequence alternative => by
    rw [branch, Cond.arms, Cond.last?, pick, otherwise_eq_pick alternative]

theorem otherwise_eq_pick : ∀ alternative : CondAlternative,
    context.otherwise alternative = context.pick (alternative.last?.getD []) alternative.arms
  | .nothing => rfl
  | .elseIf cond => branch_eq_pick cond
  | .otherwise _ => rfl

end

variable {last : List Node}

theorem pick_append {before : List (Expr × List Node)}
    (hbefore : ∀ arm ∈ before, context.Refutes arm.1) (arms : List (Expr × List Node)) :
    context.pick last (before ++ arms) = context.pick last arms := by
  induction before with
  | nil => rfl
  | cons arm before ih =>
    obtain ⟨value, hvalue, hfalsy⟩ := hbefore arm List.mem_cons_self
    rw [List.cons_append, pick, hvalue, ok_bind, hfalsy,
      ih fun arm harm => hbefore arm (List.mem_cons_of_mem _ harm)]
    rfl

theorem pick_of_isTruthy {test : Expr} {value : Value} (hvalue : context.eval test = .ok value)
    (htruthy : value.isTruthy) (body : List Node) (after : List (Expr × List Node)) :
    context.pick last ((test, body) :: after) = .ok body := by
  rw [pick, hvalue, ok_bind, if_pos htruthy]
  rfl

theorem pick_of_error {test : Expr} {error : RenderError}
    (herror : context.eval test = .error error) (body : List Node)
    (after : List (Expr × List Node)) :
    context.pick last ((test, body) :: after) = .error error := by
  rw [pick, herror]
  rfl

end Context

section

variable {σ : Type} (sink : Sink σ)

theorem evaluateAll_nil (context : Context) (out : σ) :
    evaluateAll sink [] context out = ⟨.ok (), context, out⟩ := by
  obtain ⟨expand, hexpand⟩ := evaluateWithin_eq_evaluateNodes sink context.room
  rw [evaluateAll, hexpand]
  rfl

/-- A conditional goes on in the body that it picks, where it stands. -/
theorem evaluate_cond (cond : Cond) (context : Context) (out : σ) :
    evaluate sink (.statement (.cond cond)) context out =
      Action.withValue (·.pick (cond.last?.getD []) cond.arms) (evaluateAll sink) context out := by
  obtain ⟨expand, hexpand⟩ := evaluateWithin_eq_evaluateNodes sink context.room
  rw [evaluate, hexpand, evaluateNodes_singleton, evaluateNode, evaluateStatement,
    evaluateCond_eq_branch]
  simp only [Action.withValue, Context.branch_eq_pick]
  cases context.pick (cond.last?.getD []) cond.arms with
  | error error => rfl
  | ok nodes => exact (congrFun (congrFun (hexpand nodes) context) out).symm

variable {sink} {context : Context} {cond : Cond} {out : σ}

theorem evaluate_cond_of_pick_eq_ok {nodes : List Node}
    (h : context.pick (cond.last?.getD []) cond.arms = .ok nodes) :
    evaluate sink (.statement (.cond cond)) context out = evaluateAll sink nodes context out := by
  rw [evaluate_cond, Action.withValue, h]

theorem evaluate_cond_of_pick_eq_error {error : RenderError}
    (h : context.pick (cond.last?.getD []) cond.arms = .error error) :
    evaluate sink (.statement (.cond cond)) context out = ⟨.error error, context, out⟩ := by
  rw [evaluate_cond, Action.withValue, h]
  rfl

variable (sink)

/-- The first test that is true decides which body a conditional runs, whatever tests and bodies
come after it. A test that fails before that fails the conditional, and nothing is written. Where
no test is true the body of the else is run, or nothing is done. An else-if is an else with a
conditional in it: however else-ifs are written so in the templates of a store, they can all be
registered and are rendered as before. -/
theorem Cond.evaluate_picks_first :
    (∀ (context : Context) (out : σ) (before : List (Expr × List Node)),
      (∀ arm ∈ before, context.Refutes arm.1) →
        (∀ test value, context.eval test = .ok value → value.isTruthy → ∀ (cond : Cond) body,
          before ++ [(test, body)] <+: cond.arms →
            evaluate sink (.statement (.cond cond)) context out =
                evaluateAll sink body context out ∧
              ∀ other : Cond, before ++ [(test, body)] <+: other.arms →
                evaluate sink (.statement (.cond other)) context out =
                  evaluate sink (.statement (.cond cond)) context out) ∧
        (∀ test error, context.eval test = .error error → ∀ (cond : Cond) body,
          before ++ [(test, body)] <+: cond.arms →
            evaluate sink (.statement (.cond cond)) context out =
              ⟨.error error, context, out⟩) ∧
        ∀ cond : Cond, cond.arms = before →
          (∀ body, cond.last? = some body → evaluate sink (.statement (.cond cond)) context out =
            evaluateAll sink body context out) ∧
          (cond.last? = none →
            evaluate sink (.statement (.cond cond)) context out = ⟨.ok (), context, out⟩)) ∧
    ∀ store : Store, store.Built →
      (∀ rewrite : String → Node → Node, (∀ name (root : Node), root.Unchains (rewrite name root)) →
        ∃ store' : Store, store'.Built ∧ store'.maxIncludeDepth = store.maxIncludeDepth ∧
          ∀ name, (store'.find? name).map Template.root =
            (store.find? name).map fun template => rewrite name template.root) ∧
      ∀ store' : Store, store'.Built → store'.maxIncludeDepth = store.maxIncludeDepth →
        store.Unchains store' → ∀ registry name data (out : σ),
          store'.render registry sink name data out = store.render registry sink name data out := by
  refine ⟨fun context out before hbefore => ⟨?_, ?_, ?_⟩, fun store hbuilt => ⟨?_, ?_⟩⟩
  · intro test value hvalue htruthy cond body hcond
    have hpicked : ∀ cond : Cond, before ++ [(test, body)] <+: cond.arms →
        evaluate sink (.statement (.cond cond)) context out =
          evaluateAll sink body context out := by
      rintro cond ⟨after, harms⟩
      refine evaluate_cond_of_pick_eq_ok ?_
      rw [← harms, List.append_assoc, Context.pick_append hbefore]
      exact Context.pick_of_isTruthy hvalue htruthy body after
    exact ⟨hpicked cond hcond, fun other hother =>
      (hpicked other hother).trans (hpicked cond hcond).symm⟩
  · rintro test error herror cond body ⟨after, harms⟩
    refine evaluate_cond_of_pick_eq_error ?_
    rw [← harms, List.append_assoc, Context.pick_append hbefore]
    exact Context.pick_of_error herror body after
  · intro cond harms
    have hpick : ∀ last : List Node, context.pick last cond.arms = .ok last := by
      intro last
      rw [harms, ← List.append_nil before, Context.pick_append hbefore, Context.pick]
    refine ⟨fun body hbody => ?_, fun hnone => ?_⟩
    · refine evaluate_cond_of_pick_eq_ok ?_
      rw [hpick, hbody, Option.getD_some]
    · rw [evaluate_cond_of_pick_eq_ok (hpick _), hnone, Option.getD_none, evaluateAll_nil]
  · exact fun rewrite hrewrite => hbuilt.exists_unchains hrewrite
  · intro store' hbuilt' hlimit htrees registry name data out
    exact (Store.render_eq_of_unchains hbuilt hbuilt' hlimit.symm htrees registry sink name data
      out).symm

end

def greeting (test : Expr) : Cond :=
  .mk (.var "late") [.content "Good evening"] (.elseIf (.mk test [.content "Hi"]
    (.otherwise [.content "Good day"])))

def nestedGreeting (test : Expr) : Cond :=
  .mk (.var "late") [.content "Good evening"] (.otherwise [.statement (.cond (.mk test
    [.content "Hi"] (.otherwise [.content "Good day"])))])

def greetingStore (cond : Cond) : Store where
  templates := [("page", { name := "page", version := "1", root := .statement (.cond cond) })]

def greetingContext : Context where
  data := [("friend", .string "Ada"), ("late", .bool false)]
  blocks := []
  registry := {}
  store := greetingStore (greeting (.var "friend"))
  entry := "page"

theorem Cond.evaluate_picks_first_greeting :
    evaluate Sink.text (.statement (.cond (greeting (.var "friend")))) greetingContext "" =
        ⟨.ok (), greetingContext, "Hi"⟩ ∧
      evaluate Sink.text (.statement (.cond (greeting (.var "foe")))) greetingContext "" =
        ⟨.error (.unknownVariable "foe"), greetingContext, ""⟩ ∧
      evaluate Sink.text (.statement (.cond (greeting (.var "late")))) greetingContext "" =
        ⟨.ok (), greetingContext, "Good day"⟩ ∧
      (greetingStore (nestedGreeting (.var "friend"))).render {} Sink.text "page" [] "" =
        (greetingStore (greeting (.var "friend"))).render {} Sink.text "page" [] "" := by
  have hlate : greetingContext.Refutes (.var "late") := ⟨.bool false, rfl, rfl⟩
  have hevening : ∀ arm ∈ [(Expr.var "late", [Node.content "Good evening"])],
      greetingContext.Refutes arm.1 := List.forall_mem_singleton.mpr hlate
  have hfirst := (evaluate_picks_first Sink.text).1 greetingContext ""
  have hbuilt : ∀ cond, (greetingStore cond).Built := by
    intro cond
    have hadd : (Store.withMaxIncludeDepth defaultIncludeDepth).add
        { name := "page", version := "1", root := .statement (.cond cond) } =
          .ok (greetingStore cond) := rfl
    exact .add (.empty defaultIncludeDepth) hadd
  have htrees : (greetingStore (greeting (.var "friend"))).Unchains
      (greetingStore (nestedGreeting (.var "friend"))) := by
    intro name
    by_cases hname : name = "page"
    · subst hname
      exact .some (.statement (.cond (.mk (.refl _) (.nested (.refl _)))))
    · have hnone : ∀ cond, (greetingStore cond).find? name = none :=
        fun cond => if_neg (Ne.symm hname)
      rw [hnone, hnone]
      exact .none
  refine ⟨?_, ?_, ?_, ?_⟩
  · exact ((hfirst _ hevening).1 (.var "friend") (.string "Ada") rfl rfl
      (greeting (.var "friend")) [.content "Hi"] ⟨[], rfl⟩).1
  · exact (hfirst _ hevening).2.1 (.var "foe") _ rfl (greeting (.var "foe")) [.content "Hi"]
      ⟨[], rfl⟩
  · exact ((hfirst _ (List.forall_mem_cons.mpr ⟨hlate, List.forall_mem_singleton.mpr hlate⟩)).2.2
      (greeting (.var "late")) rfl).1 [.content "Good day"] rfl
  · exact ((evaluate_picks_first Sink.text).2 _ (hbuilt (greeting (.var "friend")))).2 _
      (hbuilt (nestedGreeting (.var "friend"))) rfl htrees {} "page" [] ""

end TemplateEngine
