import TemplateEngine.Render.Evaluation

/-! # Relations that evaluation keeps

Evaluation puts the action of a tree together from a few combinators. A relation between actions
that each of them keeps holds between the actions of every tree. -/

namespace TemplateEngine

/-- The expressions, includes, yields and blocks that may stand in a tree. -/
structure Scope where
  expr : Expr → Prop := fun _ => True
  inclusion : String → Prop := fun _ => True
  yield : String → Prop := fun _ => True
  block : Prop := True

section

variable (scope : Scope)

mutual

/-- Nothing that evaluation reaches in the tree is out of scope. -/
def Node.InScope : Node → Prop
  | .source children => Node.AllInScope children
  | .content _ => True
  | .comment _ => True
  | .display expr => scope.expr expr
  | .statement statement => statement.InScope
  | .inclusion name => scope.inclusion name
  | .block _ _ => scope.block

def Node.AllInScope : List Node → Prop
  | [] => True
  | node :: nodes => node.InScope ∧ Node.AllInScope nodes

def Statement.InScope : Statement → Prop
  | .cond cond => cond.InScope
  | .yield name default => scope.yield name ∧ Node.AllInScope default
  | .loop _ iterable body => scope.expr iterable ∧ Node.AllInScope body
  | .assign _ value => scope.expr value

def Cond.InScope : Cond → Prop
  | .mk test consequence alternative =>
    scope.expr test ∧ Node.AllInScope consequence ∧ alternative.InScope

def CondAlternative.InScope : CondAlternative → Prop
  | .nothing => True
  | .elseIf cond => cond.InScope
  | .otherwise body => Node.AllInScope body

end

end

theorem Node.AllInScope.append {scope : Scope} {nodes others : List Node}
    (hnodes : Node.AllInScope scope nodes) (hothers : Node.AllInScope scope others) :
    Node.AllInScope scope (nodes ++ others) := by
  induction nodes with
  | nil => exact hothers
  | cons node nodes ih => exact ⟨hnodes.1, ih hnodes.2⟩

mutual

theorem Node.inScope_all : ∀ node : Node, node.InScope {}
  | .source children => Node.allInScope_all children
  | .content _ => trivial
  | .comment _ => trivial
  | .display _ => trivial
  | .statement statement => statement.inScope_all
  | .inclusion _ => trivial
  | .block _ _ => trivial

theorem Node.allInScope_all : ∀ nodes : List Node, Node.AllInScope {} nodes
  | [] => trivial
  | node :: nodes => ⟨node.inScope_all, Node.allInScope_all nodes⟩

theorem Statement.inScope_all : ∀ statement : Statement, statement.InScope {}
  | .cond cond => cond.inScope_all
  | .yield _ default => ⟨trivial, Node.allInScope_all default⟩
  | .loop _ _ body => ⟨trivial, Node.allInScope_all body⟩
  | .assign _ _ => trivial

theorem Cond.inScope_all : ∀ cond : Cond, cond.InScope {}
  | .mk _ consequence alternative =>
    ⟨trivial, Node.allInScope_all consequence, alternative.inScope_all⟩

theorem CondAlternative.inScope_all : ∀ alternative : CondAlternative, alternative.InScope {}
  | .nothing => trivial
  | .elseIf cond => cond.inScope_all
  | .otherwise body => Node.allInScope_all body

end

namespace Action

variable {σ : Type}

def display (sink : Sink σ) (expr : Expr) : Action σ :=
  withValue (·.eval expr) fun value => write (sink.write value)

def inFrame (frame : Dict Value) (action : Action σ) : Action σ :=
  within (fun context => .ok (context.pushFrame frame)) Context.popFrame action

def loop (item : String) (iterable : Expr) (body : Action σ) : Action σ :=
  withValue (fun context => do (← context.eval iterable).items item) fun values =>
    forEach item values body

def assign (name : String) (value : Expr) : Action σ :=
  withValue (·.eval value) (assignValue name)

def branch (test : Expr) (consequence alternative : Action σ) : Action σ :=
  withValue (·.eval test) fun value => if value.isTruthy then consequence else alternative

/-- What holds between the bodies of two loops in every frame holds between the loops. -/
theorem forEach_related {τ : Type} (Rel : Action σ → Action τ → Prop) (hskip : Rel skip skip)
    (handThen : ∀ {first second : Action σ} {first' second' : Action τ}, Rel first first' →
      Rel second second' → Rel (first.andThen second) (first'.andThen second'))
    (item : String) (values : List Value) {body : Action σ} {body' : Action τ}
    (hbody : ∀ frame, Rel (inFrame frame body) (inFrame frame body')) :
    Rel (forEach item values body) (forEach item values body') := by
  unfold forEach
  generalize values.zipIdx = indexed
  induction indexed with
  | nil => exact hskip
  | cons entry indexed ih => exact handThen (hbody _) ih

end Action

/-- The relation is kept by the ways in which evaluation makes actions from a tree in scope. -/
structure Compositional {σ τ : Type} (scope : Scope) (sink : Sink σ) (sink' : Sink τ)
    (expand : List Node → Action σ) (expand' : List Node → Action τ)
    (Rel : Action σ → Action τ → Prop) : Prop where
  skip : Rel .skip .skip
  andThen {first second : Action σ} {first' second' : Action τ} (hfirst : Rel first first')
    (hsecond : Rel second second') : Rel (first.andThen second) (first'.andThen second')
  content (text : String) :
    Rel (.write (sink.writeText text)) (.write (sink'.writeText text))
  display {expr : Expr} (hexpr : scope.expr expr) :
    Rel (.display sink expr) (.display sink' expr)
  inclusion {name : String} (hname : scope.inclusion name) :
    Rel (.includeTemplate expand name) (.includeTemplate expand' name)
  yield {name : String} {default : Action σ} {default' : Action τ} (hname : scope.yield name)
    (hdefault : Rel default default') :
    Rel (.expandYield expand name default) (.expandYield expand' name default')
  loop {iterable : Expr} {body : Action σ} {body' : Action τ} (item : String)
    (hiterable : scope.expr iterable) (hbody : Rel body body') :
    Rel (.loop item iterable body) (.loop item iterable body')
  assign {value : Expr} (name : String) (hvalue : scope.expr value) :
    Rel (.assign name value) (.assign name value)
  branch {test : Expr} {consequence alternative : Action σ} {consequence' alternative' : Action τ}
    (htest : scope.expr test) (hconsequence : Rel consequence consequence')
    (halternative : Rel alternative alternative') :
    Rel (.branch test consequence alternative) (.branch test consequence' alternative')

namespace Compositional

variable {σ τ : Type} {scope : Scope} {sink : Sink σ} {sink' : Sink τ}
  {expand : List Node → Action σ} {expand' : List Node → Action τ}
  {Rel : Action σ → Action τ → Prop}

mutual

theorem evaluateNode (h : Compositional scope sink sink' expand expand' Rel) :
    ∀ {node : Node}, node.InScope scope →
      Rel (evaluateNode sink expand node) (evaluateNode sink' expand' node)
  | .source _, hscope => h.evaluateNodes hscope
  | .content text, _ => h.content text
  | .comment _, _ => h.skip
  | .display _, hscope => h.display hscope
  | .statement _, hscope => h.evaluateStatement hscope
  | .inclusion _, hscope => h.inclusion hscope
  | .block _ _, _ => h.skip

/-- The relation holds between the two actions of every tree in scope. -/
theorem evaluateNodes (h : Compositional scope sink sink' expand expand' Rel) :
    ∀ {nodes : List Node}, Node.AllInScope scope nodes →
      Rel (evaluateNodes sink expand nodes) (evaluateNodes sink' expand' nodes)
  | [], _ => h.skip
  | _ :: _, hscope => h.andThen (h.evaluateNode hscope.1) (h.evaluateNodes hscope.2)

theorem evaluateStatement (h : Compositional scope sink sink' expand expand' Rel) :
    ∀ {statement : Statement}, statement.InScope scope →
      Rel (evaluateStatement sink expand statement) (evaluateStatement sink' expand' statement)
  | .cond _, hscope => h.evaluateCond hscope
  | .yield _ _, hscope => h.yield hscope.1 (h.evaluateNodes hscope.2)
  | .loop item _ _, hscope => h.loop item hscope.1 (h.evaluateNodes hscope.2)
  | .assign name _, hscope => h.assign name hscope

theorem evaluateCond (h : Compositional scope sink sink' expand expand' Rel) :
    ∀ {cond : Cond}, cond.InScope scope →
      Rel (evaluateCond sink expand cond) (evaluateCond sink' expand' cond)
  | .mk _ _ _, hscope =>
    h.branch hscope.1 (h.evaluateNodes hscope.2.1) (h.evaluateAlternative hscope.2.2)

theorem evaluateAlternative (h : Compositional scope sink sink' expand expand' Rel) :
    ∀ {alternative : CondAlternative}, alternative.InScope scope →
      Rel (evaluateAlternative sink expand alternative)
        (evaluateAlternative sink' expand' alternative)
  | .nothing, _ => h.skip
  | .elseIf _, hscope => h.evaluateCond hscope
  | .otherwise _, hscope => h.evaluateNodes hscope

end

end Compositional

end TemplateEngine
