import TemplateEngine.Proofs.Node.Grammar
import TemplateEngine.Proofs.Node.Valid

/-! # What is lowered

Exactly the well-formed stored trees are lowered. The typed tree is valid, and stored again it is
the tree it comes from with only what is used. -/

namespace TemplateEngine.RawNode

theorem requireName_sound {kind : NodeKind} {text name : String}
    (h : requireName kind text = .ok name) : name ≠ "" ∧ text = name := by
  unfold requireName at h
  split at h
  · cases h
  · next hne =>
    cases h
    exact ⟨hne, rfl⟩

/-- The parameter that is read but not used yet: a name for the next argument of a call that has
arguments named `given` already. -/
inductive Pending (given : List String) : Option String → List RawNode → Prop
  | none : Pending given none []
  | some {name : String} (children : List RawNode) (hname : name ≠ "") (hgiven : name ∉ given) :
      Pending given (some name) [⟨.parameter, name, children⟩]

/-- What lowering makes of children of a call that has arguments named `given` already. -/
structure LowersTo (given : List String) (children : List RawNode) (args : List Argument) :
    Prop where
  wellFormed : IsArguments (Argument.names args) children
  valid : Argument.AllValid args
  nodup : (Argument.names args).Nodup
  apart : ∀ name ∈ Argument.names args, name ≠ "" ∧ name ∉ given
  stored : ofArguments args = eraseAll children

theorem LowersTo.nil (given : List String) : LowersTo given [] [] :=
  ⟨.nil, trivial, List.nodup_nil, by simp [Argument.names], rfl⟩

theorem LowersTo.cons {given : List String} {pending : Option String}
    {before children : List RawNode} {child : RawNode} {arg : Argument} {args : List Argument}
    (hbefore : Pending given pending before) (hchild : child.IsArgument) (harg : arg.IsValid)
    (hname : arg.name = pending) (hstored : ofArgument arg = child.erase)
    (h : LowersTo (pending.toList ++ given) children args) :
    LowersTo given (before ++ child :: children) (arg :: args) := by
  have hnames := Argument.names_cons arg args
  rw [hname] at hnames
  cases hbefore with
  | none =>
    have hargs : ofArguments (arg :: args) = eraseAll (child :: children) := by
      rw [ofArguments, hname, hstored, h.stored]
      rfl
    exact ⟨hnames ▸ .positional hchild h.wellFormed, ⟨harg, h.valid⟩, hnames ▸ h.nodup,
      hnames ▸ h.apart, hargs⟩
  | @some name ignored hne hgiven =>
    have hargs : ofArguments (arg :: args) =
        eraseAll (⟨.parameter, name, ignored⟩ :: child :: children) := by
      rw [ofArguments, hname, hstored, h.stored]
      rfl
    have hfresh : name ∉ Argument.names args := fun hmem => (h.apart name hmem).2 (by simp)
    refine ⟨hnames ▸ .named ignored hne hchild h.wellFormed, ⟨harg, h.valid⟩,
      hnames ▸ List.nodup_cons.mpr ⟨hfresh, h.nodup⟩, ?_, hargs⟩
    rw [hnames]
    refine List.forall_mem_cons.mpr ⟨⟨hne, hgiven⟩, fun other hother => ?_⟩
    exact ⟨(h.apart other hother).1, fun hmem => (h.apart other hother).2 (by simp [hmem])⟩

mutual

theorem lowerExpr_sound : ∀ (raw : RawNode) {expr : Expr}, lowerExpr raw = .ok expr →
    raw.IsExpr ∧ expr.IsValid ∧ ofExpr expr = raw.erase
  | ⟨kind, text, children⟩, expr, h => by
    cases kind
    case content =>
      cases h
      exact ⟨.content text children, trivial, rfl⟩
    case var =>
      match children, h with
      | [], h =>
        rw [lowerExpr] at h
        obtain ⟨name, hname, h⟩ := exists_of_bind_eq_ok h
        obtain ⟨hne, rfl⟩ := requireName_sound hname
        cases h
        exact ⟨.var hne, hne, rfl⟩
      | [base, accessor], h =>
        rw [lowerExpr] at h
        obtain ⟨baseExpr, hbase, h⟩ := exists_of_bind_eq_ok h
        obtain ⟨accessorExpr, haccessor, h⟩ := exists_of_bind_eq_ok h
        cases h
        obtain ⟨hbase, hbaseValid, hbaseStored⟩ := lowerExpr_sound base hbase
        obtain ⟨haccessor, haccessorValid, haccessorStored⟩ := lowerExpr_sound accessor haccessor
        refine ⟨.selector text hbase haccessor, ⟨hbaseValid, haccessorValid⟩, ?_⟩
        rw [ofExpr, hbaseStored, haccessorStored]
        rfl
      | [_], h => cases h
      | _ :: _ :: _ :: _, h => cases h
    case filter =>
      rw [lowerExpr] at h
      obtain ⟨name, hname, h⟩ := exists_of_bind_eq_ok h
      obtain ⟨input, hinput, h⟩ := exists_of_bind_eq_ok h
      obtain ⟨hne, rfl⟩ := requireName_sound hname
      cases h
      obtain ⟨child, rfl, hchild, hvalid, hstored⟩ := lowerOnly_sound children hinput
      refine ⟨.filter hne hchild, ⟨hne, hvalid⟩, ?_⟩
      rw [ofExpr, hstored]
      rfl
    case function =>
      rw [lowerExpr] at h
      obtain ⟨name, hname, h⟩ := exists_of_bind_eq_ok h
      obtain ⟨args, hargs, h⟩ := exists_of_bind_eq_ok h
      obtain ⟨hne, rfl⟩ := requireName_sound hname
      cases h
      have hlowers := lowerArguments_sound children .none hargs
      refine ⟨.function hne hlowers.wellFormed hlowers.nodup,
        ⟨hne, hlowers.valid, hlowers.nodup, fun name hmem => (hlowers.apart name hmem).1⟩, ?_⟩
      rw [ofExpr, hlowers.stored]
      rfl
    all_goals cases h

theorem lowerOnly_sound {kind : NodeKind} : ∀ (children : List RawNode) {expr : Expr},
    lowerOnly kind children = .ok expr →
    ∃ child, children = [child] ∧ child.IsExpr ∧ expr.IsValid ∧ ofExpr expr = child.erase
  | [child], _, h => ⟨child, rfl, lowerExpr_sound child h⟩
  | [], _, h => by cases h
  | _ :: _ :: _, _, h => by cases h

/-- A parameter is passed on in `before` until its argument comes, so that the call is well formed
from the parameter on. -/
theorem lowerArguments_sound {given : List String} {pending : Option String}
    {before : List RawNode} : ∀ (children : List RawNode) {args : List Argument},
    Pending given pending before → lowerArguments given pending children = .ok args →
    LowersTo given (before ++ children) args
  | [], args, hbefore, h => by
    cases hbefore with
    | none =>
      cases h
      exact .nil given
    | some => cases h
  | child :: children, args, hbefore, h => by
    rw [lowerArguments] at h
    cases hkind : child.kind <;> rw [hkind] at h
    case parameter =>
      obtain ⟨name, hname, h⟩ := exists_of_bind_eq_ok h
      obtain ⟨hne, hvalue⟩ := requireName_sound hname
      split at h
      · cases h
      next hgiven =>
      have hchild : child = ⟨.parameter, name, child.children⟩ := by
        cases child
        cases hkind
        cases hvalue
        rfl
      cases hbefore with
      | none =>
        rw [hchild]
        exact lowerArguments_sound children (.some child.children hne hgiven) h
      | some => cases h
    case argument =>
      obtain ⟨arg, harg, h⟩ := exists_of_bind_eq_ok h
      obtain ⟨others, hothers, h⟩ := exists_of_bind_eq_ok h
      cases h
      obtain ⟨hchild, hvalid, hname, hstored⟩ := lowerArgument_sound child hkind harg
      exact .cons hbefore hchild hvalid hname hstored (lowerArguments_sound children .none hothers)
    all_goals cases h

theorem lowerArgument_sound {pending : Option String} : ∀ (raw : RawNode) {arg : Argument},
    raw.kind = .argument → lowerArgument pending raw = .ok arg →
    raw.IsArgument ∧ arg.IsValid ∧ arg.name = pending ∧ ofArgument arg = raw.erase
  | ⟨_, text, []⟩, arg, rfl, h => by
    cases h
    exact ⟨.literal text, trivial, rfl, rfl⟩
  | ⟨_, text, child :: children⟩, arg, rfl, h => by
    simp only [lowerArgument] at h
    split at h
    · next hempty =>
      obtain ⟨expr, hexpr, h⟩ := exists_of_bind_eq_ok h
      cases h
      obtain ⟨child, hchildren, hchild, hvalid, hstored⟩ :=
        lowerOnly_sound (child :: children) hexpr
      rw [hempty, hchildren]
      refine ⟨.value hchild, hvalid, rfl, ?_⟩
      rw [ofArgument, hstored]
      rfl
    · cases h

end

theorem lowerTest_sound : ∀ (raw : RawNode) {test : Expr}, lowerTest raw = .ok test →
    ∃ text child, raw = ⟨.condExpression, text, [child]⟩ ∧ child.IsExpr ∧ test.IsValid ∧
      ofExpr test = child.erase
  | ⟨kind, text, children⟩, test, h => by
    cases kind
    case condExpression =>
      obtain ⟨child, rfl, hchild⟩ := lowerOnly_sound children h
      exact ⟨text, child, rfl, hchild⟩
    all_goals cases h

mutual

theorem lowerNode_sound : ∀ (raw : RawNode) {node : Node}, lowerNode raw = .ok node →
    raw.IsNode ∧ node.IsValid ∧ ofNode node = raw.erase
  | ⟨kind, text, children⟩, node, h => by
    cases kind
    case source =>
      rw [lowerNode] at h
      obtain ⟨nodes, hnodes, h⟩ := exists_of_bind_eq_ok h
      cases h
      obtain ⟨hchildren, hvalid, hstored⟩ := lowerNodes_sound children hnodes
      refine ⟨.source text hchildren, hvalid, ?_⟩
      rw [ofNode, hstored]
      rfl
    case content =>
      cases h
      exact ⟨.content text children, trivial, rfl⟩
    case comment =>
      cases h
      exact ⟨.comment text children, trivial, rfl⟩
    case inclusion =>
      rw [lowerNode] at h
      obtain ⟨name, hname, h⟩ := exists_of_bind_eq_ok h
      obtain ⟨hne, rfl⟩ := requireName_sound hname
      cases h
      exact ⟨.inclusion children hne, hne, rfl⟩
    case display =>
      rw [lowerNode] at h
      obtain ⟨expr, hexpr, h⟩ := exists_of_bind_eq_ok h
      cases h
      obtain ⟨child, rfl, hchild, hvalid, hstored⟩ := lowerOnly_sound children hexpr
      refine ⟨.display text hchild, hvalid, ?_⟩
      rw [ofNode, hstored]
      rfl
    case statement =>
      rw [lowerNode] at h
      obtain ⟨statement, hstatement, h⟩ := exists_of_bind_eq_ok h
      cases h
      obtain ⟨child, rfl, hchild, hvalid, hstored⟩ := lowerOnlyStatement_sound children hstatement
      refine ⟨.statement text hchild, hvalid, ?_⟩
      rw [ofNode, hstored]
      rfl
    case block =>
      rw [lowerNode] at h
      obtain ⟨name, hname, h⟩ := exists_of_bind_eq_ok h
      obtain ⟨nodes, hnodes, h⟩ := exists_of_bind_eq_ok h
      obtain ⟨hne, rfl⟩ := requireName_sound hname
      cases h
      obtain ⟨hchildren, hvalid, hstored⟩ := lowerNodes_sound children hnodes
      refine ⟨.block hne hchildren, ⟨hne, hvalid⟩, ?_⟩
      rw [ofNode, hstored]
      rfl
    all_goals cases h

theorem lowerNodes_sound : ∀ (children : List RawNode) {nodes : List Node},
    lowerNodes children = .ok nodes →
    AreNodes children ∧ Node.AllValid nodes ∧ ofNodes nodes = eraseAll children
  | [], nodes, h => by
    cases h
    exact ⟨.nil, trivial, rfl⟩
  | child :: children, nodes, h => by
    rw [lowerNodes] at h
    obtain ⟨node, hnode, h⟩ := exists_of_bind_eq_ok h
    obtain ⟨others, hothers, h⟩ := exists_of_bind_eq_ok h
    cases h
    obtain ⟨hchild, hvalid, hstored⟩ := lowerNode_sound child hnode
    obtain ⟨hchildren, hallValid, hallStored⟩ := lowerNodes_sound children hothers
    refine ⟨.cons hchild hchildren, ⟨hvalid, hallValid⟩, ?_⟩
    rw [ofNodes, hstored, hallStored]
    rfl

theorem lowerStatement_sound : ∀ (raw : RawNode) {statement : Statement},
    lowerStatement raw = .ok statement →
    raw.IsStatement ∧ statement.IsValid ∧ ofStatement statement = raw.erase
  | ⟨kind, text, children⟩, statement, h => by
    cases kind
    case cond =>
      rw [lowerStatement] at h
      obtain ⟨cond, hcond, h⟩ := exists_of_bind_eq_ok h
      cases h
      obtain ⟨hwf, hvalid, hstored⟩ := lowerCond_sound text children hcond
      exact ⟨.cond hwf, hvalid, hstored⟩
    case yield =>
      rw [lowerStatement] at h
      obtain ⟨name, hname, h⟩ := exists_of_bind_eq_ok h
      obtain ⟨default, hdefault, h⟩ := exists_of_bind_eq_ok h
      obtain ⟨hne, rfl⟩ := requireName_sound hname
      cases h
      obtain ⟨hchildren, hvalid, hstored⟩ := lowerNodes_sound children hdefault
      refine ⟨.yield hne hchildren, ⟨hne, hvalid⟩, ?_⟩
      rw [ofStatement, hstored]
      rfl
    case loop =>
      rw [lowerStatement] at h
      obtain ⟨item, hitem, h⟩ := exists_of_bind_eq_ok h
      obtain ⟨hne, rfl⟩ := requireName_sound hitem
      match children, h with
      | [], h => cases h
      | iterable :: body, h =>
        rw [lowerLoop] at h
        obtain ⟨expr, hexpr, h⟩ := exists_of_bind_eq_ok h
        obtain ⟨nodes, hnodes, h⟩ := exists_of_bind_eq_ok h
        cases h
        obtain ⟨hiterable, hexprValid, hexprStored⟩ := lowerExpr_sound iterable hexpr
        obtain ⟨hbody, hvalid, hstored⟩ := lowerNodes_sound body hnodes
        refine ⟨.loop hne hiterable hbody, ⟨hne, hexprValid, hvalid⟩, ?_⟩
        rw [ofStatement, hexprStored, hstored]
        rfl
    case assign =>
      rw [lowerStatement] at h
      obtain ⟨name, hname, h⟩ := exists_of_bind_eq_ok h
      obtain ⟨value, hvalue, h⟩ := exists_of_bind_eq_ok h
      obtain ⟨hne, rfl⟩ := requireName_sound hname
      cases h
      obtain ⟨child, rfl, hchild, hvalid, hstored⟩ := lowerOnly_sound children hvalue
      refine ⟨.assign hne hchild, ⟨hne, hvalid⟩, ?_⟩
      rw [ofStatement, hstored]
      rfl
    all_goals cases h

theorem lowerOnlyStatement_sound : ∀ (children : List RawNode) {statement : Statement},
    lowerOnlyStatement children = .ok statement →
    ∃ child, children = [child] ∧ child.IsStatement ∧ statement.IsValid ∧
      ofStatement statement = child.erase
  | [child], _, h => ⟨child, rfl, lowerStatement_sound child h⟩
  | [], _, h => by cases h
  | _ :: _ :: _, _, h => by cases h

theorem lowerCond_sound (text : String) : ∀ (children : List RawNode) {cond : Cond},
    lowerCond children = .ok cond →
    IsCond ⟨.cond, text, children⟩ ∧ cond.IsValid ∧ ofCond cond = erase ⟨.cond, text, children⟩
  | [test, consequence], cond, h => by
    rw [lowerCond] at h
    obtain ⟨expr, hexpr, h⟩ := exists_of_bind_eq_ok h
    obtain ⟨nodes, hnodes, h⟩ := exists_of_bind_eq_ok h
    cases h
    obtain ⟨testText, test, rfl, htest, htestValid, htestStored⟩ := lowerTest_sound test hexpr
    obtain ⟨bodyText, body, rfl, hbody, hvalid, hstored⟩ :=
      lowerConsequence_sound consequence hnodes
    refine ⟨.mk text testText bodyText htest hbody .nothing, ⟨htestValid, hvalid, trivial⟩, ?_⟩
    rw [ofCond, htestStored, hstored]
    rfl
  | [test, consequence, alternative], cond, h => by
    rw [lowerCond] at h
    obtain ⟨expr, hexpr, h⟩ := exists_of_bind_eq_ok h
    obtain ⟨nodes, hnodes, h⟩ := exists_of_bind_eq_ok h
    obtain ⟨other, hother, h⟩ := exists_of_bind_eq_ok h
    cases h
    obtain ⟨testText, test, rfl, htest, htestValid, htestStored⟩ := lowerTest_sound test hexpr
    obtain ⟨bodyText, body, rfl, hbody, hvalid, hstored⟩ :=
      lowerConsequence_sound consequence hnodes
    obtain ⟨halternative, hotherValid, hotherStored⟩ := lowerAlternative_sound alternative hother
    refine ⟨.mk text testText bodyText htest hbody halternative,
      ⟨htestValid, hvalid, hotherValid⟩, ?_⟩
    rw [ofCond, htestStored, hstored, hotherStored]
    rfl
  | [], _, h => by cases h
  | [_], _, h => by cases h
  | _ :: _ :: _ :: _ :: _, _, h => by cases h

theorem lowerConsequence_sound : ∀ (raw : RawNode) {nodes : List Node},
    lowerConsequence raw = .ok nodes →
    ∃ text body, raw = ⟨.condConsequence, text, body⟩ ∧ AreNodes body ∧ Node.AllValid nodes ∧
      ofNodes nodes = eraseAll body
  | ⟨kind, text, children⟩, nodes, h => by
    cases kind
    case condConsequence => exact ⟨text, children, rfl, lowerNodes_sound children h⟩
    all_goals cases h

theorem lowerAlternative_sound : ∀ (raw : RawNode) {alternative : CondAlternative},
    lowerAlternative raw = .ok alternative →
    IsAlternative [raw] ∧ alternative.IsValid ∧ ofAlternative alternative = [raw.erase]
  | ⟨kind, text, children⟩, alternative, h => by
    cases kind
    case cond =>
      rw [lowerAlternative] at h
      obtain ⟨cond, hcond, h⟩ := exists_of_bind_eq_ok h
      cases h
      obtain ⟨hwf, hvalid, hstored⟩ := lowerCond_sound text children hcond
      exact ⟨.elseIf hwf, hvalid, congrArg (fun raw => [raw]) hstored⟩
    case condAlternative =>
      rw [lowerAlternative] at h
      obtain ⟨body, hbody, h⟩ := exists_of_bind_eq_ok h
      cases h
      obtain ⟨hchildren, hvalid, hstored⟩ := lowerNodes_sound children hbody
      refine ⟨.otherwise text hchildren, hvalid, ?_⟩
      rw [ofAlternative, hstored]
      rfl
    all_goals cases h

end

theorem IsArgument.kind_eq {raw : RawNode} (h : raw.IsArgument) : raw.kind = .argument := by
  cases h <;> rfl

theorem IsArgument.lowerArguments_cons {given : List String} {pending : Option String}
    {child : RawNode} {children : List RawNode} (h : child.IsArgument) :
    lowerArguments given pending (child :: children) = do
      let arg ← lowerArgument pending child
      let args ← lowerArguments (pending.toList ++ given) none children
      return arg :: args := by
  rw [lowerArguments, h.kind_eq]

mutual

theorem IsExpr.lowers {raw : RawNode} : raw.IsExpr → ∃ expr, lowerExpr raw = .ok expr
  | .content text children => ⟨.content text, rfl⟩
  | .var hname => by
    rw [lowerExpr, requireName_eq_ok _ hname]
    exact ⟨_, rfl⟩
  | .selector text hbase haccessor => by
    obtain ⟨base, hbase⟩ := hbase.lowers
    obtain ⟨accessor, haccessor⟩ := haccessor.lowers
    rw [lowerExpr, hbase, ok_bind, haccessor]
    exact ⟨_, rfl⟩
  | .filter hname hinput => by
    obtain ⟨input, hinput⟩ := hinput.lowers
    rw [lowerExpr, requireName_eq_ok _ hname, ok_bind, lowerOnly, hinput]
    exact ⟨_, rfl⟩
  | .function hname hargs hnames => by
    obtain ⟨args, hargs⟩ := hargs.lowers hnames (fun _ _ => List.not_mem_nil)
    rw [lowerExpr, requireName_eq_ok _ hname, ok_bind, hargs]
    exact ⟨_, rfl⟩

theorem IsArguments.lowers {names given : List String} {children : List RawNode} :
    IsArguments names children → names.Nodup → (∀ name ∈ names, name ∉ given) →
    ∃ args, lowerArguments given none children = .ok args
  | .nil, _, _ => ⟨[], rfl⟩
  | .positional harg hargs, hnodup, hgiven => by
    obtain ⟨arg, hlower⟩ := harg.lowers none
    obtain ⟨args, hothers⟩ := hargs.lowers hnodup hgiven
    rw [harg.lowerArguments_cons, hlower, ok_bind, Option.toList_none, List.nil_append, hothers]
    exact ⟨_, rfl⟩
  | .named children hname harg hargs, hnodup, hgiven => by
    obtain ⟨hfresh, hnodup⟩ := List.nodup_cons.mp hnodup
    obtain ⟨hnew, hgiven⟩ := List.forall_mem_cons.mp hgiven
    obtain ⟨arg, hlower⟩ := harg.lowers (some _)
    obtain ⟨args, hothers⟩ := hargs.lowers hnodup fun other hother hmem => by
      rcases List.mem_cons.mp hmem with rfl | hmem
      · exact hfresh hother
      · exact hgiven other hother hmem
    rw [lowerArguments, requireName_eq_ok _ hname, ok_bind, if_neg hnew]
    dsimp only
    rw [harg.lowerArguments_cons, hlower, ok_bind, Option.toList_some, List.singleton_append,
      hothers]
    exact ⟨_, rfl⟩

theorem IsArgument.lowers {raw : RawNode} (pending : Option String) :
    raw.IsArgument → ∃ arg, lowerArgument pending raw = .ok arg
  | .literal text => ⟨.literal pending text, rfl⟩
  | .value hexpr => by
    obtain ⟨expr, hexpr⟩ := hexpr.lowers
    simp only [lowerArgument, lowerOnly, if_true, hexpr, ok_bind]
    exact ⟨_, rfl⟩

end

mutual

theorem IsNode.lowers {raw : RawNode} : raw.IsNode → ∃ node, lowerNode raw = .ok node
  | .source text hchildren => by
    obtain ⟨children, hchildren⟩ := hchildren.lowers
    rw [lowerNode, hchildren]
    exact ⟨_, rfl⟩
  | .content text children => ⟨.content text, rfl⟩
  | .comment text children => ⟨.comment text, rfl⟩
  | .inclusion children hname => by
    rw [lowerNode, requireName_eq_ok _ hname]
    exact ⟨_, rfl⟩
  | .display text hexpr => by
    obtain ⟨expr, hexpr⟩ := hexpr.lowers
    rw [lowerNode, lowerOnly, hexpr]
    exact ⟨_, rfl⟩
  | .statement text hstatement => by
    obtain ⟨statement, hstatement⟩ := hstatement.lowers
    rw [lowerNode, lowerOnlyStatement, hstatement]
    exact ⟨_, rfl⟩
  | .block hname hchildren => by
    obtain ⟨children, hchildren⟩ := hchildren.lowers
    rw [lowerNode, requireName_eq_ok _ hname, ok_bind, hchildren]
    exact ⟨_, rfl⟩

theorem AreNodes.lowers {children : List RawNode} :
    AreNodes children → ∃ nodes, lowerNodes children = .ok nodes
  | .nil => ⟨[], rfl⟩
  | .cons hnode hnodes => by
    obtain ⟨node, hnode⟩ := hnode.lowers
    obtain ⟨nodes, hnodes⟩ := hnodes.lowers
    rw [lowerNodes, hnode, ok_bind, hnodes]
    exact ⟨_, rfl⟩

theorem IsStatement.lowers {raw : RawNode} :
    raw.IsStatement → ∃ statement, lowerStatement raw = .ok statement
  | .cond hcond => by
    obtain ⟨cond, hcond, -⟩ := hcond.lowers
    exact ⟨.cond cond, hcond⟩
  | .yield hname hdefault => by
    obtain ⟨default, hdefault⟩ := hdefault.lowers
    rw [lowerStatement, requireName_eq_ok _ hname, ok_bind, hdefault]
    exact ⟨_, rfl⟩
  | .loop hitem hiterable hbody => by
    obtain ⟨iterable, hiterable⟩ := hiterable.lowers
    obtain ⟨body, hbody⟩ := hbody.lowers
    rw [lowerStatement, requireName_eq_ok _ hitem, ok_bind, lowerLoop, hiterable, ok_bind, hbody]
    exact ⟨_, rfl⟩
  | .assign hname hvalue => by
    obtain ⟨value, hvalue⟩ := hvalue.lowers
    rw [lowerStatement, requireName_eq_ok _ hname, ok_bind, lowerOnly, hvalue]
    exact ⟨_, rfl⟩

/-- A conditional is a statement, and it is also what follows the consequence of another one. -/
theorem IsCond.lowers {raw : RawNode} : raw.IsCond →
    ∃ cond, lowerStatement raw = .ok (.cond cond) ∧ lowerAlternative raw = .ok (.elseIf cond)
  | @IsCond.mk text testText bodyText test body alternative htest hbody halternative => by
    obtain ⟨testExpr, htest⟩ := htest.lowers
    obtain ⟨nodes, hbody⟩ := hbody.lowers
    obtain ⟨cond, hcond⟩ : ∃ cond, lowerCond (⟨.condExpression, testText, [test]⟩ ::
        ⟨.condConsequence, bodyText, body⟩ :: alternative) = .ok cond := by
      rcases halternative.lowers with rfl | ⟨other, lowered, rfl, hother⟩
      · rw [lowerCond, lowerTest, lowerOnly, htest, ok_bind, lowerConsequence, hbody]
        exact ⟨_, rfl⟩
      · rw [lowerCond, lowerTest, lowerOnly, htest, ok_bind, lowerConsequence, hbody, ok_bind,
          hother]
        exact ⟨_, rfl⟩
    refine ⟨cond, ?_, ?_⟩
    · rw [lowerStatement, hcond]
      rfl
    · rw [lowerAlternative, hcond]
      rfl

theorem IsAlternative.lowers {children : List RawNode} : IsAlternative children →
    children = [] ∨
      ∃ raw alternative, children = [raw] ∧ lowerAlternative raw = .ok alternative
  | .nothing => .inl rfl
  | .elseIf hcond => by
    obtain ⟨cond, -, hcond⟩ := hcond.lowers
    exact .inr ⟨_, _, rfl, hcond⟩
  | .otherwise text hbody => by
    obtain ⟨body, hbody⟩ := hbody.lowers
    refine .inr ⟨_, .otherwise body, rfl, ?_⟩
    rw [lowerAlternative, hbody]
    rfl

end

/-- A stored tree is lowered exactly if it is well formed, and the typed tree is stored as the tree
without what is not used. -/
theorem lowerNode_eq_ok_iff_isNode (raw : RawNode) :
    ((∃ node, lowerNode raw = .ok node) ↔ raw.IsNode) ∧
      ∀ node, lowerNode raw = .ok node → ofNode node = raw.erase := by
  refine ⟨⟨?_, IsNode.lowers⟩, fun node hnode => (lowerNode_sound raw hnode).2.2⟩
  rintro ⟨node, hnode⟩
  exact (lowerNode_sound raw hnode).1

/-- A selector is stored without its text, and a comment without its children. -/
example : erase ⟨.display, "a", [⟨.var, "b", [leaf .var "user", leaf .var "name"]⟩]⟩ =
    ⟨.display, "", [⟨.var, "", [leaf .var "user", leaf .var "name"]⟩]⟩ ∧
    erase ⟨.comment, "c", [leaf .var "user"]⟩ = leaf .comment "c" :=
  ⟨rfl, rfl⟩

end TemplateEngine.RawNode
