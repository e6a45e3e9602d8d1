import TemplateEngine.Proofs.Markup.Parsing

/-! # Trees in markup are valid

Names in markup are never empty, since a name has a first character, and the grammar keeps the
names of arguments apart. Markup has no statements, no includes and no blocks. -/

namespace TemplateEngine.Markup

theorem IsIdent.ofList_ne_empty {name : List Char} (h : IsIdent name) :
    String.ofList name ≠ "" := by
  obtain ⟨c, rest, rfl, -, -⟩ := h
  rw [Ne, String.ofList_eq_empty_iff]
  exact List.cons_ne_nil c rest

theorem IsField.ofList_ne_empty {name : List Char} (h : IsField name) :
    String.ofList name ≠ "" := by
  rw [Ne, String.ofList_eq_empty_iff]
  exact h.1

theorem isValid_piped {expr : Expr} {names : List String} (hexpr : expr.IsValid)
    (hnames : ∀ name ∈ names, name ≠ "") : (expr.piped names).IsValid := by
  induction names generalizing expr with
  | nil => exact hexpr
  | cons name names ih =>
    exact ih ⟨hnames name List.mem_cons_self, hexpr⟩
      fun other hother => hnames other (List.mem_cons_of_mem name hother)

theorem PipesText.names_ne_empty {text : List Char} {names : List String}
    (h : PipesText text names) : ∀ name ∈ names, name ≠ "" := by
  induction h with
  | nil => simp
  | cons _ _ hname _ ih => exact List.forall_mem_cons.mpr ⟨hname.ofList_ne_empty, ih⟩

theorem ArgumentText.name_ne_empty {text : List Char} {arg : Argument}
    (h : ArgumentText text arg) : ∀ name ∈ arg.name.toList, name ≠ "" := by
  cases h with
  | positional _ => simp [Argument.name]
  | named hname _ _ _ => simpa [Argument.name] using hname.ofList_ne_empty

theorem names_ne_empty_cons {text : List Char} {arg : Argument} {args : List Argument}
    (h : ArgumentText text arg) (hargs : ∀ name ∈ Argument.names args, name ≠ "") :
    ∀ name ∈ Argument.names (arg :: args), name ≠ "" := by
  rw [Argument.names_cons]
  exact List.forall_mem_append.mpr ⟨h.name_ne_empty, hargs⟩

mutual

theorem PrimaryText.isValid {text : List Char} {expr : Expr} :
    PrimaryText text expr → expr.IsValid
  | .string _ _ => trivial
  | .name hname glued => glued.isValid hname.ofList_ne_empty

theorem GluedText.isValid {name : String} {text : List Char} {expr : Expr} (hname : name ≠ "") :
    GluedText name text expr → expr.IsValid
  | .nothing => hname
  | .field hfield glued => ⟨hname, glued.isValid hfield.ofList_ne_empty⟩
  | .emptyCall _ => ⟨hname, trivial, List.nodup_nil, by simp [Argument.names]⟩
  | .call given hnames => ⟨hname, given.allValid.1, hnames, given.allValid.2⟩

theorem ArgumentsText.allValid {text : List Char} {args : List Argument} :
    ArgumentsText text args →
      Argument.AllValid args ∧ ∀ name ∈ Argument.names args, name ≠ ""
  | .last _ given _ => ⟨⟨given.isValid, trivial⟩, names_ne_empty_cons given nofun⟩
  | .more _ given _ others =>
    ⟨⟨given.isValid, others.allValid.1⟩, names_ne_empty_cons given others.allValid.2⟩

theorem ArgumentText.isValid {text : List Char} {arg : Argument} :
    ArgumentText text arg → arg.IsValid
  | .positional chain => chain.isValid
  | .named _ _ _ chain => chain.isValid

theorem ChainText.isValid {text : List Char} {expr : Expr} : ChainText text expr → expr.IsValid
  | .piped primary filters => isValid_piped primary.isValid filters.names_ne_empty

end

/-- What markup is made of. -/
inductive IsPlain : Node → Prop
  | content (text : String) : IsPlain (.content text)
  | comment (text : String) : IsPlain (.comment text)
  | display {expr : Expr} (h : expr.IsValid) : IsPlain (.display expr)

theorem IsPlain.isValid {node : Node} (h : IsPlain node) : node.IsValid := by
  cases h with
  | content _ => trivial
  | comment _ => trivial
  | display h => exact h

theorem allValid_of_isPlain {nodes : List Node} (h : ∀ node ∈ nodes, IsPlain node) :
    Node.AllValid nodes := by
  induction nodes with
  | nil => trivial
  | cons node nodes ih =>
    obtain ⟨hnode, hnodes⟩ := List.forall_mem_cons.mp h
    exact ⟨hnode.isValid, ih hnodes⟩

theorem TagText.isPlain {tag : List Char} {node : Node} (h : TagText tag node) : IsPlain node := by
  cases h with
  | comment _ => exact .comment _
  | display _ chain _ => exact .display chain.isValid

theorem isPlain_contentOf (raw : List Char) : ∀ node ∈ contentOf raw, IsPlain node := by
  unfold contentOf
  split
  · simp
  · simpa using .content _

theorem NodesText.isPlain {text : List Char} {nodes : List Node} (h : NodesText text nodes) :
    ∀ node ∈ nodes, IsPlain node := by
  induction h with
  | raw _ => exact isPlain_contentOf _
  | tag _ first _ ih =>
    exact List.forall_mem_append.mpr
      ⟨isPlain_contentOf _, List.forall_mem_cons.mpr ⟨first.isPlain, ih⟩⟩

/-- A tree that was read from markup is the list of its content, comments and displays. -/
theorem exists_isPlain_of_parse {source : String} {tree : Node} (h : parse source = .ok tree) :
    ∃ nodes, tree = .source nodes ∧ ∀ node ∈ nodes, IsPlain node := by
  obtain ⟨nodes, rfl, htext, -⟩ := exists_nodesText_of_parse h
  exact ⟨nodes, rfl, htext.isPlain⟩

end TemplateEngine.Markup
