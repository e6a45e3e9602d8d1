import TemplateEngine.Proofs.Render.Sequence
import TemplateEngine.Proofs.Render.Termination

/-! # What a render comes to

Nodes are evaluated in turn, and some of them go on in other nodes: in those inside them, in the
tree of an include or in an override. A node is visited in the context and with the sink that
everything before it has left. -/

namespace TemplateEngine

section

variable (context : Context)

mutual

inductive Cond.Chooses : Cond → List Node → Prop
  | consequence {test : Expr} {value : Value} {consequence : List Node}
      {alternative : CondAlternative} (htest : context.eval test = .ok value)
      (htrue : value.isTruthy = true) :
      Cond.Chooses (.mk test consequence alternative) consequence
  | alternative {test : Expr} {value : Value} {consequence branch : List Node}
      {alternative : CondAlternative} (htest : context.eval test = .ok value)
      (hfalse : value.isTruthy = false) (hbranch : CondAlternative.Chooses alternative branch) :
      Cond.Chooses (.mk test consequence alternative) branch

inductive CondAlternative.Chooses : CondAlternative → List Node → Prop
  | elseIf {cond : Cond} {branch : List Node} (hcond : Cond.Chooses cond branch) :
      CondAlternative.Chooses (.elseIf cond) branch
  | otherwise {body : List Node} : CondAlternative.Chooses (.otherwise body) body

end

end

section

variable {σ : Type} (sink : Sink σ)

/-- Runs the body in some of the iterations of a loop of that length. -/
def iterate (item : String) (length : Nat) (body : Action σ) (iterations : List (Value × Nat)) :
    Action σ :=
  Action.sequence (iterations.map fun (value, index) =>
    Action.inFrame (loopFrame item value index length) body)

/-- The nodes that the evaluation of a node goes on in, with the context and the sink that it starts
them with. A loop starts its body again in what the iterations before have left. -/
inductive Node.Continues :
    Node → Context → σ → List Node → Context → σ → Prop
  | source {children : List Node} {context : Context} {out : σ} :
      Continues (.source children) context out children context out
  | inclusion {name : String} {template : Template} {context inner : Context} {out : σ}
      (hfind : context.store.find? name = some template)
      (henter : context.enterInclude name = .ok inner) :
      Continues (.inclusion name) context out [template.root] inner out
  | branch {cond : Cond} {branch : List Node} {context : Context} {out : σ}
      (hbranch : cond.Chooses context branch) :
      Continues (.statement (.cond cond)) context out branch context out
  | override {name : String} {default nodes : List Node} {context inner : Context} {out : σ}
      (hblock : context.block? name = some nodes)
      (henter : context.enterYield name = .ok inner) :
      Continues (.statement (.yield name default)) context out nodes inner out
  | default {name : String} {default : List Node} {context : Context} {out : σ}
      (hblock : context.block? name = none) :
      Continues (.statement (.yield name default)) context out default context out
  | iteration {item : String} {iterable : Expr} {body : List Node} {value value' : Value}
      {values : List Value} {index : Nat} {done todo : List (Value × Nat)}
      {context context' : Context} {out out' : σ} (hvalue : context.eval iterable = .ok value)
      (hitems : value.items item = .ok values)
      (hsplit : values.zipIdx = done ++ (value', index) :: todo)
      (hdone : iterate item values.length (evaluateNodes sink (evaluateAll sink) body) done
        context out = ⟨.ok (), context', out'⟩) :
      Continues (.statement (.loop item iterable body)) context out body
        (context'.pushFrame (loopFrame item value' index values.length)) out'

/-- Evaluating the nodes comes to a node, after all that stands before it has succeeded. -/
inductive Visits : List Node → Context → σ → Node → Context → σ → Prop
  | here {before after : List Node} {node : Node} {context context' : Context} {out out' : σ}
      (hbefore : evaluateNodes sink (evaluateAll sink) before context out =
        ⟨.ok (), context', out'⟩) :
      Visits (before ++ node :: after) context out node context' out'
  | inside {before after inner : List Node} {node visited : Node}
      {context context' context'' place : Context} {out out' out'' written : σ}
      (hbefore : evaluateNodes sink (evaluateAll sink) before context out =
        ⟨.ok (), context', out'⟩)
      (hinner : node.Continues sink context' out' inner context'' out'')
      (hvisits : Visits inner context'' out'' visited place written) :
      Visits (before ++ node :: after) context out visited place written

/-- An assignment of the value to the name is executed when the nodes are evaluated. -/
def Executes (nodes : List Node) (context : Context) (out : σ) (name : String) (value : Value) :
    Prop :=
  ∃ expr place written,
    Visits sink nodes context out (.statement (.assign name expr)) place written ∧
      place.eval expr = .ok value

variable {sink}

namespace Visits

variable {node visited : Node} {nodes others inner : List Node}
  {context context' place : Context} {out out' written : σ}

theorem append (h : Visits sink nodes context out visited place written) :
    Visits sink (nodes ++ others) context out visited place written := by
  cases h with
  | here hbefore =>
    rw [List.append_assoc, List.cons_append]
    exact .here hbefore
  | inside hbefore hinner hvisits =>
    rw [List.append_assoc, List.cons_append]
    exact .inside hbefore hinner hvisits

theorem cons (hnode : evaluateNode sink (evaluateAll sink) node context out =
      ⟨.ok (), context', out'⟩)
    (h : Visits sink nodes context' out' visited place written) :
    Visits sink (node :: nodes) context out visited place written := by
  cases h with
  | here hbefore =>
    rw [← List.cons_append]
    exact .here ((Action.andThen_of_ok hnode).trans hbefore)
  | inside hbefore hinner hvisits =>
    rw [← List.cons_append]
    exact .inside ((Action.andThen_of_ok hnode).trans hbefore) hinner hvisits

end Visits

namespace Executes

variable {node : Node} {nodes inner others : List Node} {context context' : Context} {out out' : σ}
  {name : String} {value : Value}

theorem assign {expr : Expr} (h : context.eval expr = .ok value) :
    Executes sink [.statement (.assign name expr)] context out name value := by
  have hbefore : evaluateNodes sink (evaluateAll sink) [] context out = ⟨.ok (), context, out⟩ :=
    rfl
  exact ⟨expr, context, out, .here hbefore, h⟩

theorem inside (hinner : node.Continues sink context out inner context' out')
    (h : Executes sink inner context' out' name value) :
    Executes sink [node] context out name value := by
  have hbefore : evaluateNodes sink (evaluateAll sink) [] context out = ⟨.ok (), context, out⟩ :=
    rfl
  obtain ⟨expr, place, written, hvisits, heval⟩ := h
  exact ⟨expr, place, written, .inside hbefore hinner hvisits, heval⟩

theorem append (h : Executes sink nodes context out name value) :
    Executes sink (nodes ++ others) context out name value := by
  obtain ⟨expr, place, written, hvisits, heval⟩ := h
  exact ⟨expr, place, written, hvisits.append, heval⟩

theorem cons (hnode : evaluateNode sink (evaluateAll sink) node context out =
      ⟨.ok (), context', out'⟩)
    (h : Executes sink nodes context' out' name value) :
    Executes sink (node :: nodes) context out name value := by
  obtain ⟨expr, place, written, hvisits, heval⟩ := h
  exact ⟨expr, place, written, hvisits.cons hnode, heval⟩

end Executes

end

end TemplateEngine
