import TemplateEngine.Proofs.Except
import TemplateEngine.Node.Lowering
import TemplateEngine.Node.Raising

/-! # Valid trees

What the types of trees leave open: names are not empty, and the arguments of one call have
different names. A valid tree that is stored is read back. -/

namespace TemplateEngine

def Argument.names (args : List Argument) : List String :=
  args.filterMap Argument.name

mutual

def Expr.IsValid : Expr → Prop
  | .content _ => True
  | .var name => name ≠ ""
  | .selector base accessor => base.IsValid ∧ accessor.IsValid
  | .filter name input => name ≠ "" ∧ input.IsValid
  | .function name args =>
    name ≠ "" ∧ Argument.AllValid args ∧ (Argument.names args).Nodup ∧
      ∀ name ∈ Argument.names args, name ≠ ""

def Argument.AllValid : List Argument → Prop
  | [] => True
  | arg :: args => arg.IsValid ∧ Argument.AllValid args

def Argument.IsValid : Argument → Prop
  | .literal _ _ => True
  | .value _ expr => expr.IsValid

end

mutual

def Node.IsValid : Node → Prop
  | .source children => Node.AllValid children
  | .content _ => True
  | .comment _ => True
  | .display expr => expr.IsValid
  | .statement statement => statement.IsValid
  | .inclusion name => name ≠ ""
  | .block name children => name ≠ "" ∧ Node.AllValid children

def Node.AllValid : List Node → Prop
  | [] => True
  | node :: nodes => node.IsValid ∧ Node.AllValid nodes

def Statement.IsValid : Statement → Prop
  | .cond cond => cond.IsValid
  | .yield name default => name ≠ "" ∧ Node.AllValid default
  | .loop item iterable body => item ≠ "" ∧ iterable.IsValid ∧ Node.AllValid body
  | .assign name value => name ≠ "" ∧ value.IsValid

def Cond.IsValid : Cond → Prop
  | .mk test consequence alternative =>
    test.IsValid ∧ Node.AllValid consequence ∧ alternative.IsValid

def CondAlternative.IsValid : CondAlternative → Prop
  | .nothing => True
  | .elseIf cond => cond.IsValid
  | .otherwise body => Node.AllValid body

end

theorem Argument.names_cons (arg : Argument) (args : List Argument) :
    Argument.names (arg :: args) = arg.name.toList ++ Argument.names args := by
  rw [Argument.names, List.filterMap_cons]
  cases arg.name <;> rfl

namespace RawNode

theorem requireName_eq_ok (kind : NodeKind) {name : String} (h : name ≠ "") :
    requireName kind name = .ok name :=
  if_neg h

theorem lowerArguments_ofParameter {given : List String} {name : Option String}
    (h : ∀ name' ∈ name, name' ≠ "" ∧ name' ∉ given) (rest : List RawNode) :
    lowerArguments given none (ofParameter name ++ rest) = lowerArguments given name rest := by
  cases name with
  | none => rfl
  | some name =>
    obtain ⟨hne, hgiven⟩ := h name rfl
    have hparam : lowerArguments given none (ofParameter (some name) ++ rest) =
        requireName .parameter name >>= fun name =>
          if name ∈ given then .error (.duplicateArgument name)
          else lowerArguments given (some name) rest := rfl
    rw [hparam, requireName_eq_ok _ hne, ok_bind, if_neg hgiven]

theorem lowerArguments_ofArgument (given : List String) (pending : Option String) (arg : Argument)
    (rest : List RawNode) :
    lowerArguments given pending (ofArgument arg :: rest) = do
      let arg ← lowerArgument pending (ofArgument arg)
      let args ← lowerArguments (pending.toList ++ given) none rest
      return arg :: args := by
  cases arg <;> rfl

mutual

theorem lowerExpr_ofExpr : ∀ expr : Expr, expr.IsValid → lowerExpr (ofExpr expr) = .ok expr
  | .content text, _ => rfl
  | .var name, h => by
    simp only [ofExpr, leaf, lowerExpr, requireName_eq_ok .var h, ok_bind]
    rfl
  | .selector base accessor, h => by
    simp only [ofExpr, lowerExpr, lowerExpr_ofExpr base h.1, lowerExpr_ofExpr accessor h.2, ok_bind]
    rfl
  | .filter name input, h => by
    simp only [ofExpr, lowerExpr, lowerOnly, requireName_eq_ok .filter h.1,
      lowerExpr_ofExpr input h.2, ok_bind]
    rfl
  | .function name args, h => by
    obtain ⟨hname, hargs, hnodup, hnames⟩ := h
    simp only [ofExpr, lowerExpr, requireName_eq_ok .function hname,
      lowerArguments_ofArguments args [] hargs hnodup hnames (by simp), ok_bind]
    rfl

theorem lowerArguments_ofArguments : ∀ (args : List Argument) (given : List String),
    Argument.AllValid args → (Argument.names args).Nodup →
    (∀ name ∈ Argument.names args, name ≠ "") → (∀ name ∈ Argument.names args, name ∉ given) →
    lowerArguments given none (ofArguments args) = .ok args
  | [], _, _, _, _, _ => rfl
  | arg :: args, given, h, hnodup, hnames, hgiven => by
    rw [Argument.names_cons] at hnodup hnames hgiven
    obtain ⟨-, hnodup, hapart⟩ := List.nodup_append.mp hnodup
    have hname : ∀ name ∈ arg.name, name ≠ "" ∧ name ∉ given := fun name hname =>
      have hmem := List.mem_append_left (Argument.names args) (Option.mem_toList.mpr hname)
      ⟨hnames name hmem, hgiven name hmem⟩
    have hothers : lowerArguments (arg.name.toList ++ given) none (ofArguments args) =
        .ok args := by
      refine lowerArguments_ofArguments args _ h.2 hnodup
        (fun name hmem => hnames name (List.mem_append_right _ hmem)) fun name hmem => ?_
      rw [List.mem_append, not_or]
      exact ⟨fun hname => hapart name hname name hmem rfl,
        hgiven name (List.mem_append_right _ hmem)⟩
    rw [ofArguments, lowerArguments_ofParameter hname, lowerArguments_ofArgument,
      lowerArgument_ofArgument arg h.1, ok_bind, hothers, ok_bind]
    rfl

theorem lowerArgument_ofArgument : ∀ arg : Argument, arg.IsValid →
    lowerArgument arg.name (ofArgument arg) = .ok arg
  | .literal name text, _ => rfl
  | .value name expr, h => by
    simp only [ofArgument, lowerArgument, lowerOnly, if_true, lowerExpr_ofExpr expr h, ok_bind]
    rfl

end

theorem lowerTest_ofExpr {test : Expr} (h : test.IsValid) :
    lowerTest ⟨.condExpression, "", [ofExpr test]⟩ = .ok test := by
  rw [lowerTest, lowerOnly]
  exact lowerExpr_ofExpr test h

theorem lowerStatement_ofCond (cond : Cond) :
    lowerStatement (ofCond cond) = do return .cond (← lowerCond (ofCond cond).children) := by
  cases cond
  rfl

theorem lowerAlternative_ofCond (cond : Cond) :
    lowerAlternative (ofCond cond) = do return .elseIf (← lowerCond (ofCond cond).children) := by
  cases cond
  rfl

mutual

/-- A valid tree that is stored is read back. -/
theorem lowerNode_ofNode : ∀ node : Node, node.IsValid → lowerNode (ofNode node) = .ok node
  | .source children, h => by
    simp only [ofNode, lowerNode, lowerNodes_ofNodes children h, ok_bind]
    rfl
  | .content text, _ => rfl
  | .comment text, _ => rfl
  | .display expr, h => by
    simp only [ofNode, lowerNode, lowerOnly, lowerExpr_ofExpr expr h, ok_bind]
    rfl
  | .statement statement, h => by
    simp only [ofNode, lowerNode, lowerOnlyStatement, lowerStatement_ofStatement statement h,
      ok_bind]
    rfl
  | .inclusion name, h => by
    simp only [ofNode, leaf, lowerNode, requireName_eq_ok .inclusion h, ok_bind]
    rfl
  | .block name children, h => by
    simp only [ofNode, lowerNode, requireName_eq_ok .block h.1, lowerNodes_ofNodes children h.2,
      ok_bind]
    rfl

theorem lowerNodes_ofNodes : ∀ nodes : List Node, Node.AllValid nodes →
    lowerNodes (ofNodes nodes) = .ok nodes
  | [], _ => rfl
  | node :: nodes, h => by
    simp only [ofNodes, lowerNodes, lowerNode_ofNode node h.1, lowerNodes_ofNodes nodes h.2,
      ok_bind]
    rfl

theorem lowerStatement_ofStatement : ∀ statement : Statement, statement.IsValid →
    lowerStatement (ofStatement statement) = .ok statement
  | .cond cond, h => by
    simp only [ofStatement, lowerStatement_ofCond, lowerCond_ofCond cond h, ok_bind]
    rfl
  | .yield name default, h => by
    simp only [ofStatement, lowerStatement, requireName_eq_ok .yield h.1,
      lowerNodes_ofNodes default h.2, ok_bind]
    rfl
  | .loop item iterable body, h => by
    simp only [ofStatement, lowerStatement, lowerLoop, requireName_eq_ok .loop h.1,
      lowerExpr_ofExpr iterable h.2.1, lowerNodes_ofNodes body h.2.2, ok_bind]
    rfl
  | .assign name value, h => by
    simp only [ofStatement, lowerStatement, lowerOnly, requireName_eq_ok .assign h.1,
      lowerExpr_ofExpr value h.2, ok_bind]
    rfl

theorem lowerCond_ofCond : ∀ cond : Cond, cond.IsValid → lowerCond (ofCond cond).children = .ok cond
  | .mk test consequence .nothing, h => by
    simp only [ofCond, ofAlternative, lowerCond, lowerTest_ofExpr h.1, lowerConsequence,
      lowerNodes_ofNodes consequence h.2.1, ok_bind]
    rfl
  | .mk test consequence (.elseIf cond), h => by
    simp only [ofCond, ofAlternative, lowerCond, lowerTest_ofExpr h.1, lowerConsequence,
      lowerNodes_ofNodes consequence h.2.1, lowerAlternative_ofCond, lowerCond_ofCond cond h.2.2,
      ok_bind]
    rfl
  | .mk test consequence (.otherwise body), h => by
    simp only [ofCond, ofAlternative, lowerCond, lowerTest_ofExpr h.1, lowerConsequence,
      lowerNodes_ofNodes consequence h.2.1, lowerAlternative, lowerNodes_ofNodes body h.2.2,
      ok_bind]
    rfl

end

end RawNode

end TemplateEngine
