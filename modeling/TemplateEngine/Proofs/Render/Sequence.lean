import TemplateEngine.Render.Evaluation

/-! # Actions in turn

A list of nodes does what its nodes do in turn, up to the first that fails. -/

namespace TemplateEngine

section

variable {σ : Type} (sink : Sink σ) (expand : List Node → Action σ)

theorem Action.andThen_skip (action : Action σ) : action.andThen skip = action := by
  funext context out
  unfold Action.andThen
  cases houtcome : action context out with
  | mk result context' out' => cases result <;> rfl

theorem Action.andThen_assoc (first second third : Action σ) :
    (first.andThen second).andThen third = first.andThen (second.andThen third) := by
  funext context out
  unfold Action.andThen
  cases houtcome : first context out with
  | mk result context' out' => cases result <;> rfl

theorem Action.andThen_of_ok {first second : Action σ} {context context' : Context} {out out' : σ}
    (h : first context out = ⟨.ok (), context', out'⟩) :
    first.andThen second context out = second context' out' := by
  unfold Action.andThen
  rw [h]

theorem Action.sequence_append (actions others : List (Action σ)) :
    sequence (actions ++ others) = (sequence actions).andThen (sequence others) := by
  induction actions with
  | nil => rfl
  | cons action actions ih => rw [List.cons_append, sequence, sequence, ih, andThen_assoc]

theorem evaluateNodes_singleton (node : Node) :
    evaluateNodes sink expand [node] = evaluateNode sink expand node :=
  Action.andThen_skip _

theorem evaluateNodes_append (nodes others : List Node) :
    evaluateNodes sink expand (nodes ++ others) =
      (evaluateNodes sink expand nodes).andThen (evaluateNodes sink expand others) := by
  induction nodes with
  | nil => rfl
  | cons node nodes ih =>
    rw [List.cons_append, evaluateNodes, evaluateNodes, ih, Action.andThen_assoc]

end

end TemplateEngine
