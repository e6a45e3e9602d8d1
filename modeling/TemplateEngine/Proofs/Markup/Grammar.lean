import TemplateEngine.Proofs.Markup.Characters
import TemplateEngine.Proofs.Node.Valid
import TemplateEngine.Markup.Parser

/-! # The grammar of markup

Which texts spell which trees, said without reading them from left to right: a text derives a tree
if it can be cut into pieces that derive the parts. -/

namespace TemplateEngine

mutual

/-- How many selectors, calls and arguments stand inside one another. Filters do not nest. -/
def Expr.nesting : Expr → Nat
  | .content _ => 0
  | .var _ => 0
  | .selector base accessor => max base.nesting (accessor.nesting + 1)
  | .filter _ input => input.nesting
  | .function _ args => Argument.nestings args + 1

def Argument.nestings : List Argument → Nat
  | [] => 0
  | arg :: args => max arg.nesting (Argument.nestings args)

def Argument.nesting : Argument → Nat
  | .literal _ _ => 0
  | .value _ expr => expr.nesting

end

/-- The expression piped through filters, the first of them innermost. -/
def Expr.piped (expr : Expr) (names : List String) : Expr :=
  names.foldl (fun input name => .filter name input) expr

theorem Expr.nesting_piped (expr : Expr) (names : List String) :
    (expr.piped names).nesting = expr.nesting := by
  induction names generalizing expr with
  | nil => rfl
  | cons name names ih =>
    rw [Expr.piped, List.foldl_cons]
    exact (ih (.filter name expr)).trans (by simp [Expr.nesting])

namespace Markup

def Blanks (s : List Char) : Prop :=
  ∀ c ∈ s, Unicode.isWhiteSpace c = true

/-- A letter or an underscore, then letters, numbers and underscores. -/
def IsIdent (name : List Char) : Prop :=
  ∃ c rest, name = c :: rest ∧ isIdentStart c = true ∧ ∀ d ∈ rest, isIdentContinue d = true

/-- The name of a field may start with a number. -/
def IsField (name : List Char) : Prop :=
  name ≠ [] ∧ ∀ c ∈ name, isIdentContinue c = true

/-- Pipes to filters, with blanks around each pipe but not at the end. -/
inductive PipesText : List Char → List String → Prop
  | nil : PipesText [] []
  | cons {before after name text : List Char} {names : List String}
      (hbefore : Blanks before) (hafter : Blanks after) (hname : IsIdent name)
      (rest : PipesText text names) :
      PipesText (before ++ '|' :: (after ++ (name ++ text))) (String.ofList name :: names)

mutual

/-- A quoted string without its quote inside, or a name with what is glued to it. -/
inductive PrimaryText : List Char → Expr → Prop
  | string {quote : Char} {text : List Char} (hquote : quote = '"' ∨ quote = '\'')
      (hmem : quote ∉ text) :
      PrimaryText (quote :: (text ++ [quote])) (.content (String.ofList text))
  | name {name text : List Char} {expr : Expr} (hname : IsIdent name)
      (glued : GluedText (String.ofList name) text expr) : PrimaryText (name ++ text) expr

/-- What is glued to a name: nothing, a field with what is glued to that in turn, or a call, to
which nothing is glued. The arguments of a call that have names have different ones. -/
inductive GluedText : String → List Char → Expr → Prop
  | nothing {name : String} : GluedText name [] (.var name)
  | field {name : String} {field text : List Char} {accessor : Expr} (hfield : IsField field)
      (glued : GluedText (String.ofList field) text accessor) :
      GluedText name ('.' :: (field ++ text)) (.selector (.var name) accessor)
  | emptyCall {name : String} {blanks : List Char} (hblanks : Blanks blanks) :
      GluedText name ('(' :: (blanks ++ [')'])) (.function name [])
  | call {name : String} {text : List Char} {args : List Argument}
      (given : ArgumentsText text args) (hnames : (Argument.names args).Nodup) :
      GluedText name ('(' :: (text ++ [')'])) (.function name args)

/-- One argument or more, separated by commas, with blanks around each. -/
inductive ArgumentsText : List Char → List Argument → Prop
  | last {before text after : List Char} {arg : Argument} (hbefore : Blanks before)
      (given : ArgumentText text arg) (hafter : Blanks after) :
      ArgumentsText (before ++ (text ++ after)) [arg]
  | more {before text after rest : List Char} {arg : Argument} {args : List Argument}
      (hbefore : Blanks before) (given : ArgumentText text arg) (hafter : Blanks after)
      (others : ArgumentsText rest args) :
      ArgumentsText (before ++ (text ++ (after ++ ',' :: rest))) (arg :: args)

/-- An expression with its filters, which a name and an equals sign may precede. -/
inductive ArgumentText : List Char → Argument → Prop
  | positional {text : List Char} {expr : Expr} (chain : ChainText text expr) :
      ArgumentText text (.value none expr)
  | named {name before after text : List Char} {expr : Expr} (hname : IsIdent name)
      (hbefore : Blanks before) (hafter : Blanks after) (chain : ChainText text expr) :
      ArgumentText (name ++ (before ++ '=' :: (after ++ text)))
        (.value (some (String.ofList name)) expr)

/-- An expression with its filters. -/
inductive ChainText : List Char → Expr → Prop
  | piped {text pipes : List Char} {expr : Expr} {names : List String}
      (primary : PrimaryText text expr) (filters : PipesText pipes names) :
      ChainText (text ++ pipes) (expr.piped names)

end

/-- A tag of any sort starts the text. -/
def StartsTag (s : List Char) : Prop :=
  ∃ c rest, s = '\x7b' :: c :: rest ∧ (c = '\x7b' ∨ c = '%' ∨ c = '#')

/-- No tag starts in `raw` where `rest` follows it. -/
def RawBefore (raw rest : List Char) : Prop :=
  ∀ front back, raw = front ++ back → back ≠ [] → ¬StartsTag (back ++ rest)

inductive TagText : List Char → Node → Prop
  | comment {text : List Char} (hclose : ¬['#', '\x7d'] <:+: text) :
      TagText ('\x7b' :: '#' :: (text ++ ['#', '\x7d'])) (.comment (String.ofList text))
  | display {before text after : List Char} {expr : Expr} (hbefore : Blanks before)
      (chain : ChainText text expr) (hafter : Blanks after) :
      TagText ('\x7b' :: '\x7b' :: (before ++ (text ++ (after ++ ['\x7d', '\x7d']))))
        (.display expr)

/-- Text and tags in turn. A tag starts at the first place where one can, and text between tags is
kept as it is unless it is empty. -/
inductive NodesText : List Char → List Node → Prop
  | raw {raw : List Char} (hraw : RawBefore raw []) : NodesText raw (contentOf raw)
  | tag {raw tag rest : List Char} {node : Node} {nodes : List Node}
      (hraw : RawBefore raw (tag ++ rest)) (first : TagText tag node)
      (others : NodesText rest nodes) :
      NodesText (raw ++ (tag ++ rest)) (contentOf raw ++ node :: nodes)

/-- No display tag among the nodes nests deeper than the limit. -/
def DisplaysWithin (limit : Nat) (nodes : List Node) : Prop :=
  ∀ expr, Node.display expr ∈ nodes → expr.nesting ≤ limit

end Markup

end TemplateEngine
