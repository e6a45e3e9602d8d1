import TemplateEngine.Proofs.Markup.Parsing
import TemplateEngine.Proofs.Node.Calls

/-! # Calls in markup

The arguments of calls in markup are named by identifiers, so no name is a number. -/

namespace TemplateEngine.Markup

def asciiDigits : Unicode.Ranges :=
  [(0x30, 0x39)]

theorem not_isIdentStart_of_isDigit {c : Char} (h : c.isDigit = true) : isIdentStart c = false := by
  have hrange : asciiDigits.contains c = true := by
    have hbounds : 0x30 ≤ c.toNat ∧ c.toNat ≤ 0x39 := Char.isDigit_iff_toNat.mp h
    simpa [asciiDigits, Unicode.Ranges.contains, Unicode.Ranges.covers] using hbounds
  have hapart : asciiDigits.apart Unicode.alphabetic = true := by decide +kernel
  have hletter : Unicode.isAlphabetic c = false :=
    Unicode.Ranges.not_contains_of_apart hapart hrange
  have hbar : c ≠ '_' := by
    rintro rfl
    exact absurd h (by decide)
  simp [isIdentStart, hletter, hbar]

/-- An identifier as a string. -/
def IsName (name : String) : Prop :=
  ∃ chars, name = String.ofList chars ∧ IsIdent chars

theorem IsName.ne_repr {name : String} (h : IsName name) (n : Nat) : name ≠ n.repr := by
  obtain ⟨chars, rfl, c, rest, rfl, hstart, -⟩ := h
  intro heq
  have hdigits : c :: rest = Nat.toDigits 10 n := String.ofList_injective heq
  have hdigit : c.isDigit = true :=
    Nat.isDigit_of_mem_toDigits (by decide) (Nat.le_refl 10) (hdigits ▸ List.mem_cons_self)
  rw [not_isIdentStart_of_isDigit hdigit] at hstart
  cases hstart

/-- The arguments of the calls are named by identifiers. -/
def NamedCalls (calls : List Call) : Prop :=
  ∀ call ∈ calls, ∀ name ∈ Argument.names call.args, IsName name

theorem NamedCalls.nil : NamedCalls [] := by
  simp [NamedCalls]

theorem NamedCalls.append {calls others : List Call} (h : NamedCalls calls)
    (hothers : NamedCalls others) : NamedCalls (calls ++ others) :=
  List.forall_mem_append.mpr ⟨h, hothers⟩

theorem calls_piped (expr : Expr) (names : List String) :
    (expr.piped names).calls = expr.calls := by
  induction names generalizing expr with
  | nil => rfl
  | cons name names ih => exact ih (.filter name expr)

theorem ArgumentText.isName {text : List Char} {arg : Argument} (h : ArgumentText text arg) :
    ∀ name ∈ arg.name.toList, IsName name := by
  cases h with
  | positional _ => simp [Argument.name]
  | named hname _ _ _ => simpa [Argument.name] using ⟨_, rfl, hname⟩

theorem ArgumentsText.isName {text : List Char} {args : List Argument}
    (h : ArgumentsText text args) : ∀ name ∈ Argument.names args, IsName name := by
  cases h with
  | last _ given _ =>
    rw [Argument.names_cons]
    exact List.forall_mem_append.mpr ⟨given.isName, by simp [Argument.names]⟩
  | more _ given _ others =>
    rw [Argument.names_cons]
    exact List.forall_mem_append.mpr ⟨given.isName, others.isName⟩

mutual

theorem PrimaryText.namedCalls {text : List Char} {expr : Expr} :
    PrimaryText text expr → NamedCalls expr.calls
  | .string _ _ => .nil
  | .name _ glued => glued.namedCalls

theorem GluedText.namedCalls {name : String} {text : List Char} {expr : Expr} :
    GluedText name text expr → NamedCalls expr.calls
  | .nothing => .nil
  | .field _ glued => glued.namedCalls
  | .emptyCall _ => List.forall_mem_cons.mpr ⟨by simp [Argument.names], NamedCalls.nil⟩
  | .call given _ => List.forall_mem_cons.mpr ⟨given.isName, given.namedCalls⟩

theorem ArgumentsText.namedCalls {text : List Char} {args : List Argument} :
    ArgumentsText text args → NamedCalls (Argument.allCalls args)
  | .last _ given _ => given.namedCalls.append .nil
  | .more _ given _ others => given.namedCalls.append others.namedCalls

theorem ArgumentText.namedCalls {text : List Char} {arg : Argument} :
    ArgumentText text arg → NamedCalls arg.calls
  | .positional chain => chain.namedCalls
  | .named _ _ _ chain => chain.namedCalls

theorem ChainText.namedCalls {text : List Char} {expr : Expr} :
    ChainText text expr → NamedCalls expr.calls
  | .piped primary _ => by
    rw [calls_piped]
    exact primary.namedCalls

end

theorem TagText.namedCalls {tag : List Char} {node : Node} (h : TagText tag node) :
    NamedCalls node.calls := by
  cases h with
  | comment _ => exact .nil
  | display _ chain _ => exact chain.namedCalls

theorem allCalls_contentOf (raw : List Char) : Node.allCalls (contentOf raw) = [] := by
  unfold contentOf
  split <;> rfl

theorem NodesText.namedCalls {text : List Char} {nodes : List Node} (h : NodesText text nodes) :
    NamedCalls (Node.allCalls nodes) := by
  induction h with
  | raw _ =>
    rw [allCalls_contentOf]
    exact .nil
  | tag _ first _ ih =>
    rw [Node.allCalls_append, allCalls_contentOf, Node.allCalls]
    exact NamedCalls.nil.append (first.namedCalls.append ih)

theorem namedCalls_of_parse {source : String} {tree : Node} (h : parse source = .ok tree) :
    NamedCalls tree.calls := by
  obtain ⟨nodes, rfl, htext, -⟩ := exists_nodesText_of_parse h
  exact htext.namedCalls

end TemplateEngine.Markup
