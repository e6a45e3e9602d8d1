import Mathlib.Data.List.Nodup
import TemplateEngine.Proofs.Except
import TemplateEngine.Proofs.Markup.Tokens

/-! # What the scanner accepts derives its tree

A scanner that is built over another is sound if that other one is. Soundness of the whole then
follows by induction on the levels that may still nest. -/

namespace TemplateEngine.Markup

def GluedSound (levels : Nat) (glued : String → Scanner Expr) : Prop :=
  ∀ name s expr rest, glued name s = .ok (expr, rest) →
    ∃ text, s = text ++ rest ∧ GluedText name text expr ∧ expr.nesting ≤ levels

def PrimarySound (levels : Nat) (primary : Scanner Expr) : Prop :=
  ∀ s expr rest, primary s = .ok (expr, rest) →
    ∃ before text, s = before ++ (text ++ rest) ∧ Blanks before ∧ PrimaryText text expr ∧
      expr.nesting ≤ levels

def ChainSound (levels : Nat) (chain : Scanner Expr) : Prop :=
  ∀ s expr rest, chain s = .ok (expr, rest) →
    ∃ before text after, s = before ++ (text ++ (after ++ rest)) ∧ Blanks before ∧
      ChainText text expr ∧ Blanks after ∧ expr.nesting ≤ levels

variable {levels : Nat} {opened : List Char}

theorem scanPrimary_sound {glued : String → Scanner Expr} (h : GluedSound levels glued) :
    PrimarySound levels (scanPrimary opened glued) := by
  intro s expr rest hs
  obtain ⟨before, hbefore, hskip⟩ := exists_blanks s
  simp only [scanPrimary] at hs
  split at hs
  · simp at hs
  · next c tail heq =>
    rw [heq] at hskip
    split_ifs at hs with hstart hquote
    · obtain ⟨chars, hfield, hname, htail⟩ :=
        exists_takeIdent (isIdentContinue_of_isIdentStart hstart) tail
      obtain ⟨text, htext, hglued, hnesting⟩ := h _ _ _ _ hs
      rw [hname] at hglued
      refine ⟨before, c :: chars ++ text, ?_, hbefore,
        .name (isIdent_of_isField hstart hfield) hglued, hnesting⟩
      rw [hskip, htail, htext, List.append_assoc]
    · obtain ⟨text, hmem, rfl, htail⟩ := exists_of_scanString hs
      refine ⟨before, c :: (text ++ [c]), ?_, hbefore, .string (by simpa using hquote) hmem, ?_⟩
      · simp [hskip, htail]
      · simp [Expr.nesting]

theorem PrimaryText.isIdent_of_var {text : List Char} {name : String}
    (h : PrimaryText text (.var name)) : IsIdent text ∧ name = String.ofList text := by
  cases h with
  | @name chars glued _ hname hglued =>
    cases hglued
    simpa using hname

theorem scanFilters_sound {primary : Scanner Expr} (h : PrimarySound levels primary) {fuel : Nat}
    {expr piped : Expr} {s rest : List Char}
    (hs : scanFilters primary fuel expr s = .ok (piped, rest)) :
    ∃ names text after, s = text ++ (after ++ rest) ∧ PipesText text names ∧ Blanks after ∧
      piped = expr.piped names := by
  induction fuel generalizing expr s with
  | zero =>
    obtain ⟨after, hafter, hskip⟩ := exists_blanks s
    simp only [scanFilters, Except.ok.injEq, Prod.mk.injEq] at hs
    obtain ⟨rfl, rfl⟩ := hs
    exact ⟨[], [], after, hskip, .nil, hafter, rfl⟩
  | succ fuel ih =>
    obtain ⟨blanks, hblanks, hskip⟩ := exists_blanks s
    simp only [scanFilters] at hs
    split at hs
    · next tail heq =>
      rw [heq] at hskip
      obtain ⟨⟨filter, rest'⟩, hfilter, hs⟩ := exists_of_bind_eq_ok hs
      obtain ⟨after, hafter, htail⟩ := exists_blanks tail
      obtain ⟨before, chars, hstart, hbefore, hprimary, -⟩ := h _ _ _ hfilter
      cases filter with
      | var name =>
        obtain ⟨hident, rfl⟩ := hprimary.isIdent_of_var
        obtain ⟨names, text, last, rfl, hpipes, hlast, rfl⟩ := ih hs
        refine ⟨String.ofList chars :: names, _, last, ?_,
          .cons hblanks (hafter.append hbefore) hident hpipes, hlast, rfl⟩
        rw [hskip, htail, hstart]
        simp
      | content _ => simp at hs
      | selector _ _ => simp at hs
      | filter _ _ => simp at hs
      | function _ _ => simp at hs
    · simp only [Except.ok.injEq, Prod.mk.injEq] at hs
      obtain ⟨rfl, rfl⟩ := hs
      exact ⟨[], [], blanks, hskip, .nil, hblanks, rfl⟩

theorem scanChain_sound {primary : Scanner Expr} (h : PrimarySound levels primary) :
    ChainSound levels (scanChain primary) := by
  intro s expr rest hs
  obtain ⟨⟨first, rest'⟩, hfirst, hfilters⟩ := exists_of_bind_eq_ok hs
  obtain ⟨before, text, rfl, hbefore, hprimary, hnesting⟩ := h _ _ _ hfirst
  obtain ⟨names, pipes, after, rfl, hpipes, hafter, rfl⟩ := scanFilters_sound h hfilters
  refine ⟨before, text ++ pipes, after, ?_, hbefore, .piped hprimary hpipes, hafter, ?_⟩
  · simp
  · rw [Expr.nesting_piped]
    exact hnesting

theorem scanArgument_sound {chain : Scanner Expr} (h : ChainSound levels chain)
    {s rest : List Char} {arg : Argument} (hs : scanArgument chain s = .ok (arg, rest)) :
    ∃ before text after, s = before ++ (text ++ (after ++ rest)) ∧ Blanks before ∧
      ArgumentText text arg ∧ Blanks after ∧ arg.nesting ≤ levels := by
  simp only [scanArgument] at hs
  cases hlabel : takeLabel? s with
  | none =>
    simp only [hlabel] at hs
    obtain ⟨⟨expr, rest'⟩, hexpr, hs⟩ := exists_of_bind_eq_ok hs
    cases hs
    obtain ⟨before, text, after, hs, hbefore, hchain, hafter, hnesting⟩ := h _ _ _ hexpr
    refine ⟨before, text, after, hs, hbefore, .positional hchain, hafter, ?_⟩
    simpa [Argument.nesting] using hnesting
  | some label =>
    simp only [hlabel] at hs
    obtain ⟨⟨expr, rest'⟩, hexpr, hs⟩ := exists_of_bind_eq_ok hs
    cases hs
    obtain ⟨chars, blanks, hident, hblanks, hname, rfl⟩ := exists_of_takeLabel? hlabel
    obtain ⟨before, text, after, htail, hbefore, hchain, hafter, hnesting⟩ := h _ _ _ hexpr
    dsimp only at hname ⊢
    rw [hname]
    refine ⟨[], _, after, ?_, .nil, .named hident hblanks hbefore hchain, hafter, ?_⟩
    · simp [htail]
    · simpa [Argument.nesting] using hnesting

theorem nodup_names_append {prior : List Argument} {arg : Argument}
    (h : repeatsName prior arg = none) (hprior : (Argument.names prior).Nodup) :
    (Argument.names (prior ++ [arg])).Nodup := by
  cases hname : arg.name with
  | none => simpa [Argument.names, hname] using hprior
  | some name =>
    simp only [repeatsName, hname, ite_eq_right_iff, reduceCtorEq, imp_false, Bool.not_eq_true,
      List.any_eq_false, decide_eq_true_eq] at h
    simp only [Argument.names, List.filterMap_append, List.filterMap_cons, hname,
      List.filterMap_nil] at hprior ⊢
    refine hprior.append (by simp) ?_
    simpa [List.disjoint_singleton] using h

theorem scanArguments_sound {chain : Scanner Expr} (h : ChainSound levels chain) {fuel : Nat}
    {prior args : List Argument} {s rest : List Char}
    (hs : scanArguments opened chain fuel prior s = .ok (args, rest))
    (hprior : (Argument.names prior).Nodup) :
    ∃ given text, args = prior ++ given ∧ s = text ++ ')' :: rest ∧ ArgumentsText text given ∧
      (Argument.names args).Nodup ∧ Argument.nestings given ≤ levels := by
  induction fuel generalizing prior s with
  | zero => simp [scanArguments] at hs
  | succ fuel ih =>
    obtain ⟨blanks, hblanks, hskip⟩ := exists_blanks s
    simp only [scanArguments] at hs
    obtain ⟨⟨arg, rest'⟩, harg, hs⟩ := exists_of_bind_eq_ok hs
    obtain ⟨before, text, after, hstart, hbefore, htext, hafter, hnesting⟩ :=
      scanArgument_sound h harg
    obtain ⟨last, hlast, hrest⟩ := exists_blanks rest'
    dsimp only at hs
    split at hs
    · simp at hs
    · next hrepeats =>
      have hnodup := nodup_names_append hrepeats hprior
      split at hs
      · next heq =>
        simp only [Except.ok.injEq, Prod.mk.injEq] at hs
        obtain ⟨rfl, rfl⟩ := hs
        rw [heq] at hrest
        refine ⟨[arg], _, rfl, ?_,
          .last (hblanks.append hbefore) htext (hafter.append hlast), hnodup, ?_⟩
        · rw [hskip, hstart, hrest]
          simp
        · simpa [Argument.nestings] using hnesting
      · next tail heq =>
        rw [heq] at hrest
        obtain ⟨given, more, rfl, rfl, hmore, hnames, hnestings⟩ := ih hs hnodup
        refine ⟨arg :: given, _, by simp, ?_,
          .more (hblanks.append hbefore) htext (hafter.append hlast) hmore, hnames, ?_⟩
        · rw [hskip, hstart, hrest]
          simp
        · exact Nat.max_le.mpr ⟨hnesting, hnestings⟩
      · simp at hs
      · simp at hs

/-- A call nests one level more than its arguments. -/
theorem scanCall_sound {chain : Scanner Expr} (h : ChainSound levels chain) {name : String}
    {args : List Argument} {s rest : List Char}
    (hs : scanCall opened chain s = .ok (args, rest)) :
    ∃ text, '(' :: s = text ++ rest ∧ GluedText name text (.function name args) ∧
      (Expr.function name args).nesting ≤ levels + 1 := by
  obtain ⟨blanks, hblanks, hskip⟩ := exists_blanks s
  simp only [scanCall] at hs
  split at hs
  · next heq =>
    simp only [Except.ok.injEq, Prod.mk.injEq] at hs
    obtain ⟨rfl, rfl⟩ := hs
    rw [heq] at hskip
    refine ⟨'(' :: (blanks ++ [')']), ?_, .emptyCall hblanks, ?_⟩
    · simp [hskip]
    · simp [Expr.nesting, Argument.nestings]
  · obtain ⟨_, text, rfl, htext, hgiven, hnames, hnesting⟩ :=
      scanArguments_sound h hs (by simp [Argument.names])
    have hblank : ArgumentsText (blanks ++ text) args := by
      cases hgiven with
      | last hbefore hgiven hafter =>
        rw [← List.append_assoc]
        exact .last (hblanks.append hbefore) hgiven hafter
      | more hbefore hgiven hafter others =>
        rw [← List.append_assoc]
        exact .more (hblanks.append hbefore) hgiven hafter others
    refine ⟨'(' :: (blanks ++ text ++ [')']), ?_, .call hblank hnames, ?_⟩
    · rw [hskip, htext]
      simp
    · simpa [Expr.nesting] using hnesting

theorem scanGlued_sound (levels : Nat) : GluedSound levels (scanGlued opened levels) := by
  induction levels with
  | zero =>
    intro name s expr rest hs
    unfold scanGlued at hs
    split at hs
    · simp at hs
    · simp at hs
    · next heq => simp at heq
    · next heq => simp at heq
    · simp only [Except.ok.injEq, Prod.mk.injEq] at hs
      obtain ⟨rfl, rfl⟩ := hs
      exact ⟨[], rfl, .nothing, by simp [Expr.nesting]⟩
  | succ levels ih =>
    intro name s expr rest hs
    unfold scanGlued at hs
    split at hs
    · simp at hs
    · simp at hs
    · next inner tail heq =>
      obtain rfl : levels = inner := by simpa using heq
      split at hs
      · simp at hs
      · next c tail =>
        split_ifs at hs with hc
        · obtain ⟨⟨accessor, rest'⟩, haccessor, hs⟩ := exists_of_bind_eq_ok hs
          cases hs
          obtain ⟨chars, hfield, hname, htail⟩ := exists_takeIdent hc tail
          obtain ⟨text, htext, hglued, hnesting⟩ :=
            ih (takeIdent (c :: tail)).1 (takeIdent (c :: tail)).2 _ _ haccessor
          rw [hname] at hglued
          refine ⟨'.' :: (c :: chars ++ text), ?_, .field hfield hglued, ?_⟩
          · rw [htail, htext]
            simp
          · simpa [Expr.nesting] using hnesting
    · next inner tail heq =>
      obtain rfl : levels = inner := by simpa using heq
      obtain ⟨⟨args, rest'⟩, hargs, hs⟩ := exists_of_bind_eq_ok hs
      cases hs
      exact scanCall_sound (scanChain_sound (scanPrimary_sound ih)) hargs
    · simp only [Except.ok.injEq, Prod.mk.injEq] at hs
      obtain ⟨rfl, rfl⟩ := hs
      exact ⟨[], rfl, .nothing, by simp [Expr.nesting]⟩

theorem scanExpression_sound : ChainSound maxNesting (scanExpression opened) :=
  scanChain_sound (scanPrimary_sound (scanGlued_sound maxNesting))

end TemplateEngine.Markup
