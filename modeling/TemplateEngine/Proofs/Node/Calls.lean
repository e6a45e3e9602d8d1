import TemplateEngine.Proofs.Node.Valid

/-! # Calls

The calls of functions in a tree, wherever they stand: in arguments of other calls, in tests, in
what branches and loops write, in the defaults of yields and in blocks. -/

namespace TemplateEngine

structure Call where
  function : String
  args : List Argument

def Call.expr (call : Call) : Expr :=
  .function call.function call.args

mutual

def Expr.calls : Expr → List Call
  | .content _ => []
  | .var _ => []
  | .selector base accessor => base.calls ++ accessor.calls
  | .filter _ input => input.calls
  | .function name args => ⟨name, args⟩ :: Argument.allCalls args

def Argument.allCalls : List Argument → List Call
  | [] => []
  | arg :: args => arg.calls ++ Argument.allCalls args

def Argument.calls : Argument → List Call
  | .literal _ _ => []
  | .value _ expr => expr.calls

end

mutual

def Node.calls : Node → List Call
  | .source children => Node.allCalls children
  | .content _ => []
  | .comment _ => []
  | .display expr => expr.calls
  | .statement statement => statement.calls
  | .inclusion _ => []
  | .block _ children => Node.allCalls children

def Node.allCalls : List Node → List Call
  | [] => []
  | node :: nodes => node.calls ++ Node.allCalls nodes

def Statement.calls : Statement → List Call
  | .cond cond => cond.calls
  | .yield _ default => Node.allCalls default
  | .loop _ iterable body => iterable.calls ++ Node.allCalls body
  | .assign _ value => value.calls

def Cond.calls : Cond → List Call
  | .mk test consequence alternative =>
    test.calls ++ Node.allCalls consequence ++ alternative.calls

def CondAlternative.calls : CondAlternative → List Call
  | .nothing => []
  | .elseIf cond => cond.calls
  | .otherwise body => Node.allCalls body

end

theorem Node.allCalls_append (nodes others : List Node) :
    Node.allCalls (nodes ++ others) = Node.allCalls nodes ++ Node.allCalls others := by
  induction nodes with
  | nil => rfl
  | cons node nodes ih => rw [List.cons_append, allCalls, allCalls, ih, List.append_assoc]

def Call.AllValid (calls : List Call) : Prop :=
  ∀ call ∈ calls, call.expr.IsValid

theorem Call.AllValid.nil : AllValid [] := by
  simp [AllValid]

theorem Call.AllValid.append {calls others : List Call} (h : AllValid calls)
    (hothers : AllValid others) : AllValid (calls ++ others) :=
  List.forall_mem_append.mpr ⟨h, hothers⟩

mutual

theorem Expr.allValid_calls : ∀ expr : Expr, expr.IsValid → Call.AllValid expr.calls
  | .content _, _ => .nil
  | .var _, _ => .nil
  | .selector base accessor, h => (base.allValid_calls h.1).append (accessor.allValid_calls h.2)
  | .filter _ input, h => input.allValid_calls h.2
  | .function _ args, h => List.forall_mem_cons.mpr ⟨h, Argument.allValid_allCalls args h.2.1⟩

theorem Argument.allValid_allCalls : ∀ args : List Argument, Argument.AllValid args →
    Call.AllValid (Argument.allCalls args)
  | [], _ => .nil
  | arg :: args, h => (arg.allValid_calls h.1).append (Argument.allValid_allCalls args h.2)

theorem Argument.allValid_calls : ∀ arg : Argument, arg.IsValid → Call.AllValid arg.calls
  | .literal _ _, _ => .nil
  | .value _ expr, h => expr.allValid_calls h

end

mutual

theorem Node.allValid_calls : ∀ node : Node, node.IsValid → Call.AllValid node.calls
  | .source children, h => Node.allValid_allCalls children h
  | .content _, _ => .nil
  | .comment _, _ => .nil
  | .display expr, h => expr.allValid_calls h
  | .statement statement, h => statement.allValid_calls h
  | .inclusion _, _ => .nil
  | .block _ children, h => Node.allValid_allCalls children h.2

theorem Node.allValid_allCalls : ∀ nodes : List Node, Node.AllValid nodes →
    Call.AllValid (Node.allCalls nodes)
  | [], _ => .nil
  | node :: nodes, h => (node.allValid_calls h.1).append (Node.allValid_allCalls nodes h.2)

theorem Statement.allValid_calls : ∀ statement : Statement, statement.IsValid →
    Call.AllValid statement.calls
  | .cond cond, h => cond.allValid_calls h
  | .yield _ default, h => Node.allValid_allCalls default h.2
  | .loop _ iterable body, h =>
    (iterable.allValid_calls h.2.1).append (Node.allValid_allCalls body h.2.2)
  | .assign _ value, h => value.allValid_calls h.2

theorem Cond.allValid_calls : ∀ cond : Cond, cond.IsValid → Call.AllValid cond.calls
  | .mk test consequence alternative, h =>
    ((test.allValid_calls h.1).append (Node.allValid_allCalls consequence h.2.1)).append
      (alternative.allValid_calls h.2.2)

theorem CondAlternative.allValid_calls : ∀ alternative : CondAlternative, alternative.IsValid →
    Call.AllValid alternative.calls
  | .nothing, _ => .nil
  | .elseIf cond, h => cond.allValid_calls h
  | .otherwise body, h => Node.allValid_allCalls body h

end

end TemplateEngine
