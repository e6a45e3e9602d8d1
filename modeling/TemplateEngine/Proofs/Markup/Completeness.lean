import Mathlib.Data.List.Nodup
import TemplateEngine.Proofs.Except
import TemplateEngine.Proofs.Markup.Tokens

/-! # What derives a tree is accepted

The scanners take the longest run of each class, and no derivation can end a run earlier. A text
that derives a tree is therefore read as that tree, if it nests no deeper than the levels allow. -/

namespace TemplateEngine.Markup

def GluedComplete (levels : Nat) (glued : String → Scanner Expr) : Prop :=
  ∀ name text expr rest, GluedText name text expr → expr.nesting ≤ levels → Ends rest →
    glued name (text ++ rest) = .ok (expr, rest)

def PrimaryComplete (levels : Nat) (primary : Scanner Expr) : Prop :=
  ∀ before text expr rest, Blanks before → PrimaryText text expr → expr.nesting ≤ levels →
    Ends rest → primary (before ++ (text ++ rest)) = .ok (expr, rest)

def ChainComplete (levels : Nat) (chain : Scanner Expr) : Prop :=
  ∀ before text after expr rest, Blanks before → ChainText text expr → Blanks after →
    expr.nesting ≤ levels → Closes rest →
    chain (before ++ (text ++ (after ++ rest))) = .ok (expr, rest)

variable {levels : Nat} {opened : List Char}

/-- An expression starts with a name or a quote. -/
def Starts (s : List Char) : Prop :=
  ∃ c tail, s = c :: tail ∧ (isIdentStart c = true ∨ c = '"' ∨ c = '\'')

theorem Starts.append {s : List Char} (h : Starts s) (t : List Char) : Starts (s ++ t) := by
  obtain ⟨c, tail, rfl, hc⟩ := h
  exact ⟨c, tail ++ t, rfl, hc⟩

theorem not_isIdentStart_of_mem_signs {c : Char} (h : c ∈ signs) : isIdentStart c = false := by
  by_contra hc
  have hcontinue := isIdentContinue_of_isIdentStart (by simpa using hc)
  rw [not_isIdentContinue_of_mem_signs h] at hcontinue
  exact Bool.false_ne_true hcontinue

theorem Starts.skipBlanks_eq {s : List Char} (h : Starts s) : skipBlanks s = s := by
  obtain ⟨c, tail, rfl, hc⟩ := h
  refine skipBlanks_cons ?_ tail
  rcases hc with hc | rfl | rfl
  · by_contra hblank
    have hcontinue := isIdentContinue_of_isIdentStart hc
    rw [isIdentContinue_of_isWhiteSpace (by simpa using hblank)] at hcontinue
    exact Bool.false_ne_true hcontinue
  · exact not_isWhiteSpace_of_mem_signs (by decide)
  · exact not_isWhiteSpace_of_mem_signs (by decide)

theorem IsIdent.starts {name : List Char} (h : IsIdent name) : Starts name := by
  obtain ⟨c, rest, rfl, hc, -⟩ := h
  exact ⟨c, rest, rfl, Or.inl hc⟩

theorem PrimaryText.starts {text : List Char} {expr : Expr} (h : PrimaryText text expr) :
    Starts text := by
  cases h with
  | string hquote hmem => exact ⟨_, _, rfl, Or.inr hquote⟩
  | name hname glued => exact hname.starts.append _

theorem ChainText.starts {text : List Char} {expr : Expr} (h : ChainText text expr) :
    Starts text := by
  obtain ⟨primary, filters⟩ := h
  exact primary.starts.append _

theorem ArgumentText.starts {text : List Char} {arg : Argument} (h : ArgumentText text arg) :
    Starts text := by
  cases h with
  | positional chain => exact chain.starts
  | named hname hbefore hafter chain => exact hname.starts.append _

theorem PipesText.ends {pipes rest : List Char} {names : List String} (h : PipesText pipes names)
    (hrest : Ends rest) : Ends (pipes ++ rest) := by
  cases h with
  | nil => exact hrest
  | cons hbefore hafter hname others =>
    rw [List.append_assoc]
    exact Ends.append_blanks hbefore (ends_cons (by decide) (by decide) (by decide) _)

/-- What is glued to a name does not prolong it. -/
theorem GluedText.head?_append {name : String} {text rest : List Char} {expr : Expr}
    (h : GluedText name text expr) (hrest : Ends rest) :
    ∀ c ∈ (text ++ rest).head?, isIdentContinue c = false := by
  intro c hc
  cases h with
  | nothing => exact (hrest c hc).1
  | field _ _ =>
    obtain rfl : '.' = c := by simpa using hc
    exact not_isIdentContinue_of_mem_signs (by decide)
  | emptyCall _ =>
    obtain rfl : '(' = c := by simpa using hc
    exact not_isIdentContinue_of_mem_signs (by decide)
  | call _ _ =>
    obtain rfl : '(' = c := by simpa using hc
    exact not_isIdentContinue_of_mem_signs (by decide)

theorem scanPrimary_complete {glued : String → Scanner Expr} (h : GluedComplete levels glued) :
    PrimaryComplete levels (scanPrimary opened glued) := by
  intro before text expr rest hbefore htext hnesting hrest
  have hskip : skipBlanks (before ++ (text ++ rest)) = text ++ rest := by
    rw [skipBlanks_append hbefore, (htext.starts.append rest).skipBlanks_eq]
  cases htext with
  | @string quote chars hquote hmem =>
    have hstart : isIdentStart quote = false := by
      rcases hquote with rfl | rfl <;> exact not_isIdentStart_of_mem_signs (by decide)
    simp only [List.cons_append, List.append_assoc, List.nil_append] at hskip ⊢
    simp only [scanPrimary, hskip, hstart, Bool.false_eq_true, if_false]
    rw [if_pos (by simpa using hquote)]
    exact scanString_append hmem
  | @name name text _ hname glued =>
    have htake := takeIdent_append hname.isField (glued.head?_append hrest)
    obtain ⟨c, chars, rfl, hstart, -⟩ := hname
    simp only [List.cons_append, List.append_assoc] at hskip htake ⊢
    simp only [scanPrimary, hskip, hstart, if_true, htake]
    exact h _ _ _ _ glued hnesting hrest

theorem scanFilters_complete {primary : Scanner Expr} (h : PrimaryComplete levels primary)
    {pipes : List Char} {names : List String} (hpipes : PipesText pipes names)
    {after rest : List Char} (hafter : Blanks after) (hrest : Closes rest) (fuel : Nat)
    (hfuel : pipes.length ≤ fuel) (expr : Expr) :
    scanFilters primary fuel expr (pipes ++ (after ++ rest)) = .ok (expr.piped names, rest) := by
  induction hpipes generalizing fuel expr with
  | nil =>
    have hskip : skipBlanks (after ++ rest) = rest := by
      rw [skipBlanks_append hafter, hrest.skipBlanks_eq]
    obtain ⟨c, tail, rfl, hc⟩ := hrest
    cases fuel with
    | zero => simp [scanFilters, hskip, Expr.piped]
    | succ fuel =>
      rcases hc with rfl | rfl | rfl <;> simp [scanFilters, hskip, Expr.piped]
  | @cons before between name text names hbefore hbetween hname others ih =>
    cases fuel with
    | zero => simp at hfuel
    | succ fuel =>
      have hskip : skipBlanks (before ++ '|' :: (between ++ (name ++ text)) ++ (after ++ rest)) =
          '|' :: (between ++ (name ++ (text ++ (after ++ rest)))) := by
        rw [List.append_assoc, skipBlanks_append hbefore, List.cons_append,
          skipBlanks_cons (by decide)]
        simp
      have hstart : skipBlanks (between ++ (name ++ (text ++ (after ++ rest)))) =
          name ++ (text ++ (after ++ rest)) := by
        rw [skipBlanks_append hbetween, (hname.starts.append _).skipBlanks_eq]
      have hends : Ends (text ++ (after ++ rest)) :=
        others.ends (Ends.append_blanks hafter hrest.ends)
      have hfilter : primary (name ++ (text ++ (after ++ rest))) =
          .ok (.var (String.ofList name), text ++ (after ++ rest)) := by
        have hprimary := PrimaryText.name hname .nothing
        rw [List.append_nil] at hprimary
        exact h [] name _ _ .nil hprimary (by simp [Expr.nesting]) hends
      simp only [scanFilters, hskip, hstart, hfilter, ok_bind]
      refine ih fuel ?_ _
      simp only [List.length_append, List.length_cons] at hfuel
      omega

theorem scanChain_complete {primary : Scanner Expr} (h : PrimaryComplete levels primary) :
    ChainComplete levels (scanChain primary) := by
  intro before text after expr rest hbefore htext hafter hnesting hrest
  obtain ⟨hprimary, hpipes⟩ := htext
  rw [Expr.nesting_piped] at hnesting
  have hends := hpipes.ends (Ends.append_blanks hafter hrest.ends)
  simp only [scanChain, List.append_assoc, h _ _ _ _ hbefore hprimary hnesting hends, ok_bind]
  refine scanFilters_complete h hpipes hafter hrest _ ?_ _
  simp

theorem PipesText.skipBlanks_ne_equals {pipes after rest : List Char} {names : List String}
    (h : PipesText pipes names) (hafter : Blanks after) (hrest : Closes rest) (tail : List Char) :
    skipBlanks (pipes ++ (after ++ rest)) ≠ '=' :: tail := by
  cases h with
  | nil =>
    rw [List.nil_append, skipBlanks_append hafter, hrest.skipBlanks_eq]
    rcases hrest with ⟨c, tail, rfl, rfl | rfl | rfl⟩ <;> simp
  | cons hbefore hbetween hname others =>
    rw [List.append_assoc, skipBlanks_append hbefore, List.cons_append, skipBlanks_cons (by decide)]
    simp

theorem GluedText.skipBlanks_ne_equals {name : String} {glued rest : List Char} {expr : Expr}
    (h : GluedText name glued expr) (hrest : ∀ tail, skipBlanks rest ≠ '=' :: tail)
    (tail : List Char) : skipBlanks (glued ++ rest) ≠ '=' :: tail := by
  cases h with
  | nothing => exact hrest tail
  | field _ _ =>
    rw [List.cons_append, skipBlanks_cons (by decide)]
    simp
  | emptyCall _ =>
    rw [List.cons_append, skipBlanks_cons (by decide)]
    simp
  | call _ _ =>
    rw [List.cons_append, skipBlanks_cons (by decide)]
    simp

/-- An expression is no label, since no equals sign follows its first name. -/
theorem ChainText.takeLabel?_eq {text after rest : List Char} {expr : Expr}
    (h : ChainText text expr) (hafter : Blanks after) (hrest : Closes rest) :
    takeLabel? (text ++ (after ++ rest)) = none := by
  obtain ⟨hprimary, hpipes⟩ := h
  have hends := hpipes.ends (Ends.append_blanks hafter hrest.ends)
  rw [List.append_assoc]
  cases hprimary with
  | @string quote chars hquote hmem =>
    have hstart : isIdentStart quote = false := by
      rcases hquote with rfl | rfl <;> exact not_isIdentStart_of_mem_signs (by decide)
    simp [takeLabel?, hstart]
  | @name name glued _ hname hglued =>
    have htake := takeIdent_append hname.isField (hglued.head?_append hends)
    have hnext := hglued.skipBlanks_ne_equals (hpipes.skipBlanks_ne_equals hafter hrest)
    obtain ⟨c, chars, rfl, hstart, -⟩ := hname
    simp only [List.cons_append, List.append_assoc] at htake ⊢
    simp only [takeLabel?, hstart, if_true, htake]

theorem scanArgument_complete {chain : Scanner Expr} (h : ChainComplete levels chain)
    {text after rest : List Char} {arg : Argument} (harg : ArgumentText text arg)
    (hafter : Blanks after) (hnesting : arg.nesting ≤ levels) (hrest : Closes rest) :
    scanArgument chain (text ++ (after ++ rest)) = .ok (arg, rest) := by
  cases harg with
  | positional hchain =>
    have hexpr := h [] _ _ _ _ .nil hchain hafter (by simpa [Argument.nesting] using hnesting) hrest
    rw [List.nil_append] at hexpr
    simp only [scanArgument, hchain.takeLabel?_eq hafter hrest, hexpr, ok_bind]
    rfl
  | @named name before between text expr hname hbefore hbetween hchain =>
    have hexpr := h _ _ _ _ _ hbetween hchain hafter
      (by simpa [Argument.nesting] using hnesting) hrest
    have hlabel := takeLabel?_append hname hbefore (between ++ (text ++ (after ++ rest)))
    simp only [List.append_assoc, List.cons_append]
    simp only [scanArgument, hlabel, hexpr, ok_bind]
    rfl

theorem repeatsName_eq_none {prior args : List Argument} {arg : Argument}
    (h : (Argument.names (prior ++ arg :: args)).Nodup) : repeatsName prior arg = none := by
  cases hname : arg.name with
  | none => simp [repeatsName, hname]
  | some name =>
    simp only [Argument.names, List.filterMap_append, List.filterMap_cons, hname,
      List.nodup_append', List.disjoint_cons_right] at h
    have hnot := h.2.2.1
    simp only [List.mem_filterMap, not_exists, not_and] at hnot
    simpa [repeatsName, hname] using hnot

theorem scanArguments_complete {chain : Scanner Expr} (h : ChainComplete levels chain)
    {args : List Argument} {text rest : List Char} (hargs : ArgumentsText text args)
    (prior : List Argument) (hnames : (Argument.names (prior ++ args)).Nodup)
    (hnesting : Argument.nestings args ≤ levels) (fuel : Nat) (hfuel : text.length < fuel) :
    scanArguments opened chain fuel prior (text ++ ')' :: rest) = .ok (prior ++ args, rest) := by
  induction args generalizing text prior fuel with
  | nil => cases hargs
  | cons arg args ih =>
    obtain ⟨harg, hothers⟩ := Nat.max_le.mp hnesting
    have hrepeats := repeatsName_eq_none hnames
    obtain ⟨fuel, rfl⟩ : ∃ inner, fuel = inner + 1 := ⟨fuel - 1, by omega⟩
    cases hargs with
    | @last before text after _ hbefore hgiven hafter =>
      have hstart : skipBlanks (before ++ (text ++ after) ++ ')' :: rest) =
          text ++ (after ++ ')' :: rest) := by
        rw [List.append_assoc, skipBlanks_append hbefore, List.append_assoc,
          (hgiven.starts.append _).skipBlanks_eq]
      have hclose : Closes (')' :: rest) := ⟨')', rest, rfl, by simp⟩
      simp only [scanArguments, hstart, scanArgument_complete h hgiven hafter harg hclose, ok_bind,
        hrepeats, hclose.skipBlanks_eq]
    | @more before text after others _ _ hbefore hgiven hafter hmore =>
      have hstart : skipBlanks (before ++ (text ++ (after ++ ',' :: others)) ++ ')' :: rest) =
          text ++ (after ++ ',' :: (others ++ ')' :: rest)) := by
        rw [List.append_assoc, skipBlanks_append hbefore, List.append_assoc,
          (hgiven.starts.append _).skipBlanks_eq]
        simp
      have hclose : Closes (',' :: (others ++ ')' :: rest)) := ⟨',', _, rfl, by simp⟩
      simp only [scanArguments, hstart, scanArgument_complete h hgiven hafter harg hclose, ok_bind,
        hrepeats, hclose.skipBlanks_eq]
      have hlength : others.length < fuel := by
        simp only [List.length_append, List.length_cons] at hfuel
        omega
      rw [ih hmore (prior ++ [arg]) (by simpa using hnames) hothers fuel hlength]
      simp

theorem ArgumentsText.exists_starts {text : List Char} {args : List Argument}
    (h : ArgumentsText text args) :
    ∃ blanks inner, text = blanks ++ inner ∧ Blanks blanks ∧ Starts inner ∧
      ArgumentsText inner args := by
  cases h with
  | last hbefore given hafter =>
    have hinner := ArgumentsText.last Blanks.nil given hafter
    exact ⟨_, _, rfl, hbefore, given.starts.append _, hinner⟩
  | more hbefore given hafter others =>
    have hinner := ArgumentsText.more Blanks.nil given hafter others
    exact ⟨_, _, rfl, hbefore, given.starts.append _, hinner⟩

theorem scanCall_empty {chain : Scanner Expr} {blanks rest : List Char} (hblanks : Blanks blanks) :
    scanCall opened chain (blanks ++ ')' :: rest) = .ok ([], rest) := by
  simp only [scanCall, skipBlanks_append hblanks, skipBlanks_cons (c := ')') (by decide)]

theorem scanCall_complete {chain : Scanner Expr} (h : ChainComplete levels chain)
    {args : List Argument} {text rest : List Char} (hargs : ArgumentsText text args)
    (hnames : (Argument.names args).Nodup) (hnesting : Argument.nestings args ≤ levels) :
    scanCall opened chain (text ++ ')' :: rest) = .ok (args, rest) := by
  obtain ⟨blanks, inner, rfl, hblanks, hstarts, hinner⟩ := hargs.exists_starts
  have hskip : skipBlanks (blanks ++ inner ++ ')' :: rest) = inner ++ ')' :: rest := by
    rw [List.append_assoc, skipBlanks_append hblanks, (hstarts.append _).skipBlanks_eq]
  have hread : scanArguments opened chain ((inner ++ ')' :: rest).length + 1) []
      (inner ++ ')' :: rest) = .ok ([] ++ args, rest) :=
    scanArguments_complete h hinner [] hnames hnesting _ (by
      simp only [List.length_append, List.length_cons]
      omega)
  simp only [scanCall, hskip]
  split
  · next tail heq =>
    obtain ⟨c, more, rfl, hc⟩ := hstarts
    obtain rfl : c = ')' := by simpa using congrArg List.head? heq
    rw [not_isIdentStart_of_mem_signs (by decide)] at hc
    simp at hc
  · exact hread

theorem scanGlued_nothing {name : String} {rest : List Char} (hrest : Ends rest) :
    scanGlued opened levels name rest = .ok (.var name, rest) := by
  unfold scanGlued
  split
  · exact absurd rfl (hrest _ rfl).2.1
  · exact absurd rfl (hrest _ rfl).2.2
  · exact absurd rfl (hrest _ rfl).2.1
  · exact absurd rfl (hrest _ rfl).2.2
  · rfl

theorem scanGlued_complete (levels : Nat) : GluedComplete levels (scanGlued opened levels) := by
  induction levels with
  | zero =>
    intro name text expr rest htext hnesting hrest
    cases htext with
    | nothing => exact scanGlued_nothing hrest
    | field _ _ => simp [Expr.nesting] at hnesting
    | emptyCall _ => simp [Expr.nesting] at hnesting
    | call _ _ => simp [Expr.nesting] at hnesting
  | succ levels ih =>
    have hchain : ChainComplete levels (scanChain (scanPrimary opened (scanGlued opened levels))) :=
      scanChain_complete (scanPrimary_complete ih)
    intro name text expr rest htext hnesting hrest
    cases htext with
    | nothing => exact scanGlued_nothing hrest
    | @field _ field text accessor hfield hglued =>
      have htake := takeIdent_append hfield (hglued.head?_append hrest)
      have haccessor : accessor.nesting ≤ levels := by simpa [Expr.nesting] using hnesting
      obtain ⟨c, chars, rfl⟩ := List.exists_cons_of_ne_nil hfield.1
      have hc : isIdentContinue c = true := hfield.2 c (by simp)
      simp only [List.cons_append, List.append_assoc] at htake ⊢
      simp only [scanGlued, hc, if_true, htake, ih _ _ _ _ hglued haccessor hrest, ok_bind]
      rfl
    | emptyCall hblanks =>
      simp only [List.cons_append, List.append_assoc, List.nil_append, scanGlued,
        scanCall_empty hblanks, ok_bind]
      rfl
    | @call _ text args hargs hnames =>
      have hargsNesting : Argument.nestings args ≤ levels := by
        simpa [Expr.nesting] using hnesting
      simp only [List.cons_append, List.append_assoc, List.nil_append, scanGlued,
        scanCall_complete hchain hargs hnames hargsNesting, ok_bind]
      rfl

theorem scanExpression_complete : ChainComplete maxNesting (scanExpression opened) :=
  scanChain_complete (scanPrimary_complete (scanGlued_complete maxNesting))

end TemplateEngine.Markup
