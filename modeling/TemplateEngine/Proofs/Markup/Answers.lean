import Mathlib.Data.List.DropRight
import TemplateEngine.Proofs.Markup.Readings

/-! # Readings that answer like scanners

A reading in place answers like a scanner if both come to the same value or the same error, and if
the cursor ends where the text begins that the scanner leaves. So it is with expressions, by
induction on the levels that may still be nested and, in loops, on the fuel of the scanner. -/

namespace TemplateEngine.Markup.Cursor

variable {source : String}

/-- The cursor is past the start of the last argument. -/
def Stage.Clear (stage : Stage) : Prop :=
  ∀ start ∈ stage.begun, start < stage.cursor.offset

/-- The cursor is at the start of the last argument or past it. -/
def Stage.Ready (stage : Stage) : Prop :=
  ∀ start ∈ stage.begun, start ≤ stage.cursor.offset

/-- A reading comes to the outcome of a scanner on the level where it started. If it succeeds, the
cursor is at `low` at least and past the start of the last argument. -/
inductive Answers {α : Type} (source : String) (reading : Reading α) (stage : Stage) (low : Nat) :
    Except (MarkupError (List Char)) (α × List Char) → Prop
  | ok {a : α} {rest : List Char} {last : Stage}
      (h : Leads source reading stage (.ok a) (last.before source rest))
      (hrest : rest <:+ source.toList) (hlow : low ≤ offsetBefore source rest)
      (hdepth : last.cursor.depth = stage.cursor.depth)
      (hclear : (last.before source rest).Clear) : Answers source reading stage low (.ok (a, rest))
  | error {error : MarkupError (List Char)} {last : Stage}
      (h : Leads source reading stage (.error (located source error)) last)
      (hdepth : last.cursor.depth = stage.cursor.depth) :
      Answers source reading stage low (.error error)

section

variable {stage mid : Stage} {s t rest : List Char}

theorem Stage.Clear.ready (h : stage.Clear) : stage.Ready :=
  fun start hstart => (h start hstart).le

theorem Stage.Clear.later (h : (stage.before source s).Clear)
    (hle : offsetBefore source s ≤ offsetBefore source t) : (stage.before source t).Clear :=
  fun start hstart => (h start hstart).trans_le hle

theorem Stage.Ready.later (h : (stage.before source s).Ready)
    (hle : offsetBefore source s ≤ offsetBefore source t) : (stage.before source t).Ready :=
  fun start hstart => (h start hstart).trans hle

theorem Stage.Ready.clear (h : (stage.before source s).Ready)
    (hlt : offsetBefore source s < offsetBefore source t) : (stage.before source t).Clear :=
  fun start hstart => (h start hstart).trans_lt hlt

namespace Answers

variable {α β : Type} {reading : Reading α} {low low' : Nat}
  {outcome : Except (MarkupError (List Char)) (α × List Char)}

theorem mono (h : Answers source reading stage low outcome) (hle : low' ≤ low) :
    Answers source reading stage low' outcome := by
  cases h with
  | ok h hrest hlow hdepth hclear => exact .ok h hrest (hle.trans hlow) hdepth hclear
  | error h hdepth => exact .error h hdepth

/-- A reading may first do what no scanner has to. -/
theorem after {first : Reading β} {f : β → Reading α} {b : β}
    (h : Leads source first stage (.ok b) mid) (hdepth : mid.cursor.depth = stage.cursor.depth)
    (hf : Answers source (f b) mid low outcome) :
    Answers source (first >>= f) stage low outcome := by
  cases hf with
  | ok hf hrest hlow hdepth' hclear =>
    exact .ok (h.bind hf) hrest hlow (hdepth'.trans hdepth) hclear
  | error hf hdepth' => exact .error (h.bind hf) (hdepth'.trans hdepth)

theorem bind {f : α → Reading β}
    {next : α × List Char → Except (MarkupError (List Char)) (β × List Char)}
    (h : Answers source reading stage low outcome)
    (hf : ∀ a rest (last : Stage), rest <:+ source.toList → low ≤ offsetBefore source rest →
      last.cursor.depth = stage.cursor.depth → (last.before source rest).Clear →
      Answers source (f a) (last.before source rest) low' (next (a, rest))) :
    Answers source (reading >>= f) stage low' (outcome >>= next) := by
  cases h with
  | ok h hrest hlow hdepth hclear => exact .after h hdepth (hf _ _ _ hrest hlow hdepth hclear)
  | error h hdepth => exact .error h.bind_error hdepth

theorem recorded {routine : Routine} (h : Answers source reading stage low outcome)
    (hlow : routine.Advances → stage.cursor.offset < low) :
    Answers source (recorded routine reading) stage low outcome := by
  cases h with
  | ok h hrest hle hdepth hclear =>
    exact .ok (h.recorded ⟨hdepth, fun _ hadvances => (hlow hadvances).trans_le hle⟩) hrest hle
      hdepth hclear
  | error h hdepth => exact .error (h.recorded ⟨hdepth, nofun⟩) hdepth

end Answers

end

section

variable {opened s : List Char} {stage : Stage} {levels fuel : Nat}

theorem scanString_unterminated {quote : Char} (h : quote ∉ s) :
    scanString quote s = .error (.unterminatedString (quote :: s)) := by
  have hdrop : s.dropWhile (· ≠ quote) = [] := by
    refine List.dropWhile_eq_nil_iff.mpr fun c hc => decide_eq_true fun heq => h (heq ▸ hc)
  rw [scanString, hdrop]

theorem answers_string {quote : Char} (h : quote :: s <:+ source.toList)
    (hready : (stage.before source (quote :: s)).Ready)
    (hfuel : Enough source (quote :: s) 1 fuel) :
    Answers source (string source quote fuel) (stage.before source (quote :: s))
      (offsetBefore source (quote :: s) + 1) (scanString quote s) := by
  obtain ⟨hs, hpassed⟩ := passed_cons h
  have hrest := hfuel.later hpassed.le le_rfl
  refine Answers.recorded ?_ fun _ => Nat.lt_succ_self _
  refine .after leads_here rfl (.after (leads_bump h) rfl (.after leads_here rfl ?_))
  by_cases hquote : quote ∈ s
  · obtain ⟨text, rest, rfl, htext⟩ := List.eq_append_cons_of_mem hquote
    have hlt := offsetBefore_lt h
      ((List.suffix_cons quote rest).trans (List.suffix_append text (quote :: rest)))
    rw [scanString_append htext]
    exact .ok (leads_closeString _ hs hs htext hrest)
      ((List.suffix_cons quote rest).trans ((List.suffix_append text _).trans hs)) hlt rfl
      (hready.clear hlt)
  · rw [scanString_unterminated hquote]
    exact .error (leads_closeString_unterminated _ h hs hquote hrest) rfl

/-- What is glued to a name is read as by the scanner, with so many levels left. -/
def GluedAnswers (source : String) (opened : List Char) (levels : Nat) : Prop :=
  ∀ name s (stage : Stage) fuel, s <:+ source.toList →
    stage.cursor.depth + levels = maxNesting → (stage.before source s).Clear →
      Enough source s 2 fuel →
        Answers source (glued source (offsetBefore source opened) name fuel)
          (stage.before source s) (offsetBefore source s) (scanGlued opened levels name s)

theorem takeIdent_lt {c : Char} (h : c :: s <:+ source.toList) (hc : isIdentContinue c = true) :
    offsetBefore source (c :: s) < offsetBefore source (takeIdent (c :: s)).2 := by
  refine offsetBefore_lt h ?_
  rw [takeIdent, List.dropWhile_cons_of_pos hc]
  exact List.dropWhile_suffix _

theorem answers_expression (hglued : GluedAnswers source opened levels)
    (hopened : opened <:+ source.toList) (h : s <:+ source.toList)
    (hdepth : stage.cursor.depth + levels = maxNesting) (hready : (stage.before source s).Ready)
    (hfuel : Enough source s 2 fuel) :
    Answers source (expression source (offsetBefore source opened) fuel) (stage.before source s)
      (offsetBefore source s + 1) (scanPrimary opened (scanGlued opened levels) s) := by
  obtain ⟨left, rfl, hleft⟩ := hfuel.exists_succ
  obtain ⟨ht, hle⟩ := passed_blanks h
  rw [expression, scanPrimary]
  refine Answers.recorded ?_ fun _ => Nat.lt_succ_self _
  refine .after (leads_skip h hleft) rfl (.after leads_here rfl (.after (leads_peek ht) rfl ?_))
  generalize skipBlanks s = t at *
  have hfuel' := hleft.later hle le_rfl
  cases t with
  | nil => exact .error (leads_unclosedTag hopened ht) rfl
  | cons c rest =>
    simp only [List.head?_cons, Bool.or_eq_true, decide_eq_true_eq]
    split_ifs with hstart hquote
    · have hlt := hle.trans_lt (takeIdent_lt ht (isIdentContinue_of_isIdentStart hstart))
      exact .after (leads_name ht hfuel') rfl ((hglued _ _ _ _ ((takeIdent_suffix _).trans ht)
        hdepth (hready.clear hlt) (hleft.past hlt (by decide))).mono hlt)
    · exact (answers_string ht (hready.later hle) hfuel').mono (Nat.succ_le_succ hle)
    · exact .error ((leads_position ht).bind (leads_throw _)) rfl

theorem scanFilters_of_head?_ne {primary : Scanner Expr} {expr : Expr} (count : Nat)
    (h : (skipBlanks s).head? ≠ some '|') :
    scanFilters primary count expr s = .ok (expr, skipBlanks s) := by
  cases count with
  | zero => rfl
  | succ count =>
    rw [scanFilters]
    split
    · next heq => exact absurd (congrArg List.head? heq) h
    · rfl

theorem answers_pipes_of_head?_ne {primary : Scanner Expr} (tag count : Nat) (expr : Expr)
    (h : s <:+ source.toList) (hclear : (stage.before source s).Clear)
    (hfuel : Enough source s 2 fuel) (hpipe : (skipBlanks s).head? ≠ some '|') :
    Answers source (pipes source tag expr fuel) (stage.before source s) (offsetBefore source s)
      (scanFilters primary count expr s) := by
  obtain ⟨left, rfl, hleft⟩ := hfuel.exists_succ
  obtain ⟨ht, hle⟩ := passed_blanks h
  rw [pipes, scanFilters_of_head?_ne count hpipe]
  exact .after leads_here rfl (.after (leads_skip h hleft) rfl
    (.after (leads_eat_other ht hpipe) rfl (.ok (leads_pure _) ht hle rfl (hclear.later hle))))

theorem answers_pipes (hglued : GluedAnswers source opened levels)
    (hopened : opened <:+ source.toList) (count : Nat) (expr : Expr) (hcount : s.length ≤ count)
    (h : s <:+ source.toList) (hdepth : stage.cursor.depth + levels = maxNesting)
    (hclear : (stage.before source s).Clear) (hfuel : Enough source s 2 fuel) :
    Answers source (pipes source (offsetBefore source opened) expr fuel) (stage.before source s)
      (offsetBefore source s)
      (scanFilters (scanPrimary opened (scanGlued opened levels)) count expr s) := by
  induction count generalizing expr s stage fuel with
  | zero =>
    obtain rfl := List.eq_nil_of_length_eq_zero (Nat.le_zero.mp hcount)
    exact answers_pipes_of_head?_ne _ 0 expr h hclear hfuel nofun
  | succ count ih =>
    by_cases hpipe : (skipBlanks s).head? = some '|'
    · obtain ⟨left, rfl, hleft⟩ := hfuel.exists_succ
      obtain ⟨rest, heq⟩ := List.head?_eq_some_iff.mp hpipe
      have hskip := @leads_skip source stage s left h hleft
      obtain ⟨ht, hle⟩ := passed_blanks h
      rw [heq] at hskip ht hle
      obtain ⟨hrest, hpassed⟩ := passed_cons ht
      obtain ⟨hstart, hblanks⟩ := passed_blanks hrest
      have hlt : offsetBefore source s < offsetBefore source (skipBlanks rest) :=
        (hle.trans_lt hpassed).trans_le hblanks
      rw [pipes, scanFilters, heq]
      refine .after leads_here rfl (.after hskip rfl (.after (leads_eat ht) rfl
        (.after (leads_skip hrest (hleft.later (hle.trans hpassed.le) le_rfl)) rfl
          (.after leads_here rfl ?_))))
      refine (answers_expression hglued hopened hstart hdepth (hclear.later hlt.le).ready
        (hleft.past hlt (by decide))).bind fun filter tail last htail hlow hlast hclear' => ?_
      cases filter with
      | var name =>
        have hround : offsetBefore source s < offsetBefore source tail := hlt.trans hlow
        have hlength := length_lt_of_offsetBefore_lt h htail hround
        have hnext := ih (.filter name expr) (by omega) htail (hlast ▸ hdepth) hclear'
          (hleft.past hround (by decide))
        exact .after (leads_act hround) rfl (hnext.mono hround.le)
      | _ => exact .error ((leads_position hstart).bind (leads_throw _)) rfl
    · exact answers_pipes_of_head?_ne _ _ expr h hclear hfuel hpipe

/-- An expression with its filters may be followed by anything. -/
theorem answers_chain {α : Type} {f : Expr → Reading α} {low : Nat}
    {next : Expr × List Char → Except (MarkupError (List Char)) (α × List Char)}
    (hglued : GluedAnswers source opened levels) (hopened : opened <:+ source.toList)
    (h : s <:+ source.toList) (hdepth : stage.cursor.depth + levels = maxNesting)
    (hready : (stage.before source s).Ready) (hfuel : Enough source s 2 fuel)
    (hf : ∀ expr rest (last : Stage), rest <:+ source.toList →
      offsetBefore source s < offsetBefore source rest →
      last.cursor.depth = stage.cursor.depth → (last.before source rest).Clear →
      Answers source (f expr) (last.before source rest) low (next (expr, rest))) :
    Answers source
      (do f (← filters source (offsetBefore source opened)
        (← expression source (offsetBefore source opened) fuel) fuel))
      (stage.before source s) low
      (scanChain (scanPrimary opened (scanGlued opened levels)) s >>= next) := by
  rw [scanChain, bind_assoc]
  refine (answers_expression hglued hopened h hdepth hready hfuel).bind
    fun expr rest last hrest hlow hlast hclear => ?_
  obtain ⟨left, rfl, hleft⟩ := hfuel.exists_succ
  have hpipes := answers_pipes hglued hopened rest.length expr le_rfl hrest (hlast ▸ hdepth)
    hclear (hleft.past hlow (by decide))
  rw [filters]
  refine (hpipes.recorded False.elim).bind
    fun expr' rest' last' hrest' hle hlast' hclear' => ?_
  exact hf expr' rest' last' hrest' (Nat.lt_of_lt_of_le hlow hle) (hlast'.trans hlast) hclear'

/-- What is to come after the label of an argument, if it has one. -/
def afterLabel (s : List Char) : List Char :=
  (takeLabel? s).elim s Prod.snd

theorem afterLabel_suffix (s : List Char) : afterLabel s <:+ s := by
  unfold afterLabel
  cases hlabel : takeLabel? s with
  | none => exact List.suffix_rfl
  | some label => exact takeLabel?_suffix hlabel

theorem scanArgument_eq (chain : Scanner Expr) (s : List Char) :
    scanArgument chain s = do
      let (expr, rest) ← chain (afterLabel s)
      return (.value ((takeLabel? s).map Prod.fst) expr, rest) := by
  unfold scanArgument afterLabel
  cases takeLabel? s <;> rfl

/-- Looking for a label leads past it or, where there is none, back to the start of the argument. -/
theorem leads_label? (h : s <:+ source.toList)
    (hbegun : stage.begun = some (offsetBefore source s)) (hfresh : stage.retreated = false)
    (hfuel : Enough source s 1 fuel) :
    ∃ last : Stage, Leads source (label? source fuel) (stage.before source s)
        (.ok ((takeLabel? s).map Prod.fst)) (last.before source (afterLabel s)) ∧
      last.cursor.depth = stage.cursor.depth ∧ last.begun = stage.begun := by
  have hpeek := @leads_peek source stage s h
  unfold label? afterLabel
  rcases s with _ | ⟨c, s⟩
  · exact ⟨stage, leads_here.bind (hpeek.bind (leads_pure _)), rfl, rfl⟩
  by_cases hc : isIdentStart c = true
  · have hname := takeIdent_lt h (isIdentContinue_of_isIdentStart hc)
    have htail : (takeIdent (c :: s)).2 <:+ source.toList := (takeIdent_suffix _).trans h
    have hsign : skipBlanks (takeIdent (c :: s)).2 <:+ source.toList :=
      (skipBlanks_suffix _).trans htail
    have hnamed := @leads_name source stage _ fuel h hfuel
    have hskip := @leads_skip source stage _ fuel htail (hfuel.later hname.le le_rfl)
    rw [takeLabel?, if_pos hc]
    by_cases hequals : (skipBlanks (takeIdent (c :: s)).2).head? = some '='
    · obtain ⟨rest, heq⟩ := List.head?_eq_some_iff.mp hequals
      rw [heq] at hsign hskip
      dsimp only
      rw [heq]
      refine ⟨stage, leads_here.bind (hpeek.bind ?_), rfl, rfl⟩
      rw [List.head?_cons, Option.any_some, if_pos hc]
      exact hnamed.bind (hskip.bind ((leads_eat hsign).bind (leads_pure _)))
    · have hlt := hname.trans_le (offsetBefore_le htail (skipBlanks_suffix _))
      have hretreats : Allowed source
          (stage.before source (skipBlanks (takeIdent (c :: s)).2))
          (.retreats (offsetBefore source (c :: s))) := ⟨hlt, hbegun, hfresh⟩
      dsimp only
      split
      · next heq => exact absurd (congrArg List.head? heq) hequals
      · refine ⟨{ stage with retreated := true }, leads_here.bind (hpeek.bind ?_), rfl, rfl⟩
        rw [List.head?_cons, Option.any_some, if_pos hc]
        exact hnamed.bind (hskip.bind ((leads_eat_other hsign hequals).bind
          ((leads_act hretreats).bind (leads_pure _))))
  · rw [takeLabel?, if_neg hc]
    refine ⟨stage, leads_here.bind (hpeek.bind ?_), rfl, rfl⟩
    rw [List.head?_cons, Option.any_some, if_neg hc]
    exact leads_pure _

theorem answers_argument (hglued : GluedAnswers source opened levels)
    (hopened : opened <:+ source.toList) (h : s <:+ source.toList)
    (hdepth : stage.cursor.depth + levels = maxNesting) (hclear : (stage.before source s).Clear)
    (hblanks : skipBlanks s = s) (hfuel : Enough source s 3 fuel) :
    Answers source (argument source (offsetBefore source opened) fuel) (stage.before source s)
      (offsetBefore source s + 1)
      (scanArgument (scanChain (scanPrimary opened (scanGlued opened levels))) s) := by
  obtain ⟨left, rfl, hleft⟩ := hfuel.exists_succ
  have hfirst := hleft.later le_rfl (Nat.le_succ 1)
  rw [argument, scanArgument_eq]
  refine Answers.recorded ?_ fun _ => Nat.lt_succ_self _
  have hskip := @leads_skip source stage s left h hfirst
  rw [hblanks] at hskip
  have hbegins : Allowed source (stage.before source s) (.begins (offsetBefore source s)) :=
    ⟨rfl, hclear⟩
  have hsuffix := afterLabel_suffix s
  have hle := offsetBefore_le h hsuffix
  obtain ⟨last, hlast, hdepth', hbegun⟩ := @leads_label? source s
    (stage.next (.begins (offsetBefore source s))) left h rfl rfl hfirst
  have hready : (last.before source (afterLabel s)).Ready := by
    intro start hstart
    obtain rfl := Option.some.inj (hbegun.symm.trans hstart)
    exact hle
  refine .after hskip rfl (.after leads_here rfl (.after (leads_act hbegins) rfl
    (.after hlast hdepth' ?_)))
  refine answers_chain hglued hopened (hsuffix.trans h) (hdepth' ▸ hdepth) hready
    (hleft.later hle le_rfl) fun expr rest last' hrest hlt hlast' hclear' => ?_
  exact .ok (leads_pure _) hrest (hle.trans_lt hlt) rfl hclear'

/-- The sign after an argument, and whether it closes the call. -/
def scanSeparator (opened s : List Char) : Except (MarkupError (List Char)) (Bool × List Char) :=
  match skipBlanks s with
  | [] => .error (unclosed opened [])
  | c :: rest =>
    if c = ')' then .ok (true, rest)
    else if c = ',' then .ok (false, rest)
    else .error (.unknownToken c (c :: rest))

theorem scanArguments_succ (chain : Scanner Expr) (count : Nat) (prior : List Argument)
    (s : List Char) :
    scanArguments opened chain (count + 1) prior s = (do
      let (arg, rest) ← scanArgument chain (skipBlanks s)
      match repeatsName prior arg with
      | some name => .error (.duplicateArgument name (skipBlanks s))
      | none => do
        let (closes, rest) ← scanSeparator opened rest
        if closes then return (prior ++ [arg], rest)
        else scanArguments opened chain count (prior ++ [arg]) rest) := by
  rw [scanArguments]
  refine congrArg _ (funext fun scanned => ?_)
  obtain ⟨arg, rest⟩ := scanned
  dsimp only
  cases repeatsName prior arg with
  | some name => rfl
  | none =>
    unfold scanSeparator
    dsimp only
    generalize skipBlanks rest = t
    cases t with
    | nil => rfl
    | cons c tail =>
      dsimp only
      split_ifs with hclosing hcomma
      · subst hclosing
        rfl
      · subst hcomma
        rfl
      · split
        · next heq => exact absurd (List.cons.inj heq).1 hclosing
        · next heq => exact absurd (List.cons.inj heq).1 hcomma
        · next heq => cases heq
        · next heq =>
          obtain ⟨rfl, rfl⟩ := List.cons.inj heq
          rfl

theorem answers_separator (hopened : opened <:+ source.toList) (h : s <:+ source.toList)
    (hclear : (stage.before source s).Clear) (hfuel : Enough source s 1 fuel) :
    Answers source (separator source (offsetBefore source opened) fuel) (stage.before source s)
      (offsetBefore source s + 1) (scanSeparator opened s) := by
  obtain ⟨ht, hle⟩ := passed_blanks h
  unfold separator scanSeparator
  refine .after (leads_skip h hfuel) rfl (.after leads_here rfl ?_)
  generalize skipBlanks s = t at *
  cases t with
  | nil => exact .after leads_bump_nil rfl (.error (leads_unclosedTag hopened ht) rfl)
  | cons c rest =>
    obtain ⟨hrest, hsign⟩ := passed_cons ht
    have hlt := hle.trans_lt hsign
    have hclear' := hclear.later hlt.le
    refine .after (leads_bump ht) rfl ?_
    dsimp only
    split_ifs
    · exact .ok (leads_pure _) hrest hlt rfl hclear'
    · exact .ok (leads_pure _) hrest hlt rfl hclear'
    · exact .error ((leads_position ht).bind (leads_throw _)) rfl

theorem answers_each (hglued : GluedAnswers source opened levels)
    (hopened : opened <:+ source.toList) (count : Nat) (prior : List Argument)
    (hcount : s.length < count) (h : s <:+ source.toList)
    (hdepth : stage.cursor.depth + levels = maxNesting) (hclear : (stage.before source s).Clear)
    (hfuel : Enough source s 4 fuel) :
    Answers source (each source (offsetBefore source opened) prior fuel) (stage.before source s)
      (offsetBefore source s)
      (scanArguments opened (scanChain (scanPrimary opened (scanGlued opened levels))) count prior
        s) := by
  induction count generalizing prior s stage fuel with
  | zero => exact absurd hcount (Nat.not_lt_zero _)
  | succ count ih =>
    obtain ⟨left, rfl, hleft⟩ := hfuel.exists_succ
    obtain ⟨hstart, hle⟩ := passed_blanks h
    rw [each, scanArguments_succ]
    refine .after leads_here rfl (.after (leads_skip h (hleft.later le_rfl (by decide))) rfl
      (.after leads_here rfl ?_))
    refine (answers_argument hglued hopened hstart hdepth (hclear.later hle)
      (List.dropWhile_idempotent _ s) (hleft.later hle le_rfl)).bind
        fun arg rest last hrest hlow hlast hclear' => ?_
    dsimp only
    cases repeatsName prior arg with
    | some name => exact .error ((leads_position hstart).bind (leads_throw _)) rfl
    | none =>
      refine (answers_separator hopened hrest hclear'
        (hleft.past (hle.trans_lt hlow) (by decide))).bind
          fun closes tail last' htail hlow' hlast' hclear'' => ?_
      have hround : offsetBefore source s < offsetBefore source tail :=
        (hle.trans_lt hlow).trans hlow'
      cases closes with
      | true => exact .ok (leads_pure _) htail hround.le rfl hclear''
      | false =>
        have hlength := length_lt_of_offsetBefore_lt h htail hround
        have hlevel := hlast'.trans hlast
        have hothers := ih (prior ++ [arg]) (by omega) htail (hlevel ▸ hdepth) hclear''
          (hleft.past hround (by decide))
        exact .after (leads_act hround) rfl (hothers.mono hround.le)

theorem answers_arguments (hglued : GluedAnswers source opened levels)
    (hopened : opened <:+ source.toList) (h : s <:+ source.toList)
    (hdepth : stage.cursor.depth + levels = maxNesting) (hclear : (stage.before source s).Clear)
    (hfuel : Enough source s 5 fuel) :
    Answers source (arguments source (offsetBefore source opened) fuel) (stage.before source s)
      (offsetBefore source s)
      (scanCall opened (scanChain (scanPrimary opened (scanGlued opened levels))) s) := by
  obtain ⟨left, rfl, hleft⟩ := hfuel.exists_succ
  obtain ⟨ht, hle⟩ := passed_blanks h
  rw [arguments, scanCall]
  refine Answers.recorded ?_ False.elim
  refine .after (leads_skip h (hleft.later le_rfl (by decide))) rfl ?_
  generalize skipBlanks s = t at *
  split
  · next rest =>
    obtain ⟨hrest, hsign⟩ := passed_cons ht
    have hpast := hle.trans hsign.le
    exact .after (leads_eat ht) rfl (.ok (leads_pure _) hrest hpast rfl (hclear.later hpast))
  · next hclosing =>
    have hother : t.head? ≠ some ')' := fun heq => by
      obtain ⟨rest, rfl⟩ := List.head?_eq_some_iff.mp heq
      exact hclosing rest rfl
    have heach := answers_each hglued hopened (t.length + 1) [] (Nat.lt_succ_self _) ht hdepth
      (hclear.later hle) (hleft.later hle le_rfl)
    exact .after (leads_eat_other ht hother) rfl (heach.mono hle)

/-- A reading may be nested where another level may be entered. -/
theorem Answers.nested {α : Type} {reading : Reading α} {low : Nat}
    {outcome : Except (MarkupError (List Char)) (α × List Char)} (place : Nat)
    (hlevel : stage.cursor.depth < maxNesting)
    (h : Answers source reading ((stage.next .nests).before source s) low outcome) :
    Answers source (do
      nest source place
      unnested reading) (stage.before source s) low outcome := by
  have hleft : ∀ last : Stage, last.cursor.depth = stage.cursor.depth + 1 →
      0 < last.cursor.depth ∧ last.left.cursor.depth = stage.cursor.depth := by
    intro last hdepth
    have hcursor : last.left.cursor.depth = last.cursor.depth - 1 := rfl
    omega
  cases h with
  | @ok a rest last h hrest hlow hdepth hclear =>
    obtain ⟨hpos, hdepth⟩ := hleft last hdepth
    exact @Answers.ok _ _ _ _ _ _ _ last.left ((leads_nest place hlevel).bind (h.unnested hpos))
      hrest hlow hdepth hclear
  | @error error last h hdepth =>
    obtain ⟨hpos, hdepth⟩ := hleft last hdepth
    exact .error ((leads_nest place hlevel).bind (h.unnested hpos)) hdepth

/-- A field and what is glued to it. -/
def scanField (opened : List Char) (glued : String → Scanner Expr) : Scanner Expr
  | [] => .error (unclosed opened [])
  | c :: rest =>
    if isIdentContinue c then glued (takeIdent (c :: rest)).1 (takeIdent (c :: rest)).2
    else .error (.unknownToken c (c :: rest))

theorem scanGlued_field (name : String) (rest : List Char) :
    scanGlued opened (levels + 1) name ('.' :: rest) = do
      let (accessor, rest) ← scanField opened (scanGlued opened levels) rest
      return (.selector (.var name) accessor, rest) := by
  cases rest with
  | nil => rfl
  | cons c rest =>
    simp only [scanGlued, scanField]
    split_ifs <;> rfl

theorem answers_field (hglued : GluedAnswers source opened levels)
    (hopened : opened <:+ source.toList) (h : s <:+ source.toList)
    (hdepth : stage.cursor.depth + levels = maxNesting) (hclear : (stage.before source s).Clear)
    (hfuel : Enough source s 2 fuel) :
    Answers source (field source (offsetBefore source opened) fuel) (stage.before source s)
      (offsetBefore source s) (scanField opened (scanGlued opened levels) s) := by
  obtain ⟨left, rfl, hleft⟩ := hfuel.exists_succ
  rw [field]
  refine .after leads_here rfl (.after (leads_peek h) rfl ?_)
  cases s with
  | nil => exact .error (leads_unclosedTag hopened h) rfl
  | cons c rest =>
    rw [List.head?_cons, scanField]
    dsimp only
    split_ifs with hc
    · have hlt := takeIdent_lt h hc
      exact .after (leads_name h hleft) rfl ((hglued _ _ _ _ ((takeIdent_suffix _).trans h) hdepth
        (hclear.later hlt.le) (hleft.past hlt (by decide))).mono hlt.le)
    · exact .error ((leads_position h).bind (leads_throw _)) rfl

theorem scanGlued_of_head?_ne (name : String) (hdot : s.head? ≠ some '.')
    (hparen : s.head? ≠ some '(') : scanGlued opened levels name s = .ok (.var name, s) := by
  unfold scanGlued
  split
  · exact absurd rfl hdot
  · exact absurd rfl hparen
  · exact absurd rfl hdot
  · exact absurd rfl hparen
  · rfl

section

variable {α β : Type} {reading : Reading α} {sign : Char} {rest : List Char}

/-- After a sign that nests something on a level too deep. -/
theorem answers_nest_full {f : Unit → Reading α} {low : Nat} (h : sign :: rest <:+ source.toList)
    (hfull : maxNesting ≤ stage.cursor.depth) :
    Answers source (do
      let _ ← bump source
      nest source (← here).offset >>= f) (stage.before source (sign :: rest)) low
      (.error (.nestingTooDeep maxNesting rest)) := by
  obtain ⟨hrest, -⟩ := passed_cons h
  exact .after (leads_bump h) rfl (.after leads_here rfl
    (.error (@leads_nest_error source stage rest hrest hfull).bind_error rfl))

/-- After a sign that nests something another level is entered for it. -/
theorem answers_nest {f : α → β}
    {outcome : Except (MarkupError (List Char)) (α × List Char)}
    (h : sign :: rest <:+ source.toList) (hlevel : stage.cursor.depth < maxNesting)
    (hinner : Answers source reading ((stage.next .nests).before source rest)
      (offsetBefore source rest) outcome) :
    Answers source (do
      let _ ← bump source
      nest source (← here).offset
      let a ← unnested reading
      return f a) (stage.before source (sign :: rest)) (offsetBefore source (sign :: rest))
      (do
        let (a, rest) ← outcome
        return (f a, rest)) := by
  obtain ⟨-, hsign⟩ := passed_cons h
  refine .after (leads_bump h) rfl (.after leads_here rfl ?_)
  rw [← bind_assoc]
  refine (Answers.nested _ hlevel hinner).bind fun a rest' last hrest' hle' _ hclear => ?_
  exact .ok (leads_pure _) hrest' (hsign.le.trans hle') rfl hclear

end

theorem answers_glued (hopened : opened <:+ source.toList) (levels : Nat) :
    GluedAnswers source opened levels := by
  induction levels with
  | zero =>
    intro name s stage fuel h hdepth hclear hfuel
    obtain ⟨left, rfl, -⟩ := hfuel.exists_succ
    rw [glued]
    refine Answers.recorded (.after (leads_peek h) rfl ?_) False.elim
    split
    · next hdot =>
      obtain ⟨rest, rfl⟩ := List.head?_eq_some_iff.mp hdot
      exact answers_nest_full h hdepth.ge
    · next hparen =>
      obtain ⟨rest, rfl⟩ := List.head?_eq_some_iff.mp hparen
      exact answers_nest_full h hdepth.ge
    · next hdot hparen =>
      rw [scanGlued_of_head?_ne name hdot hparen]
      exact .ok (leads_pure _) h le_rfl rfl hclear
  | succ levels ih =>
    intro name s stage fuel h hdepth hclear hfuel
    obtain ⟨left, rfl, hleft⟩ := hfuel.exists_succ
    have hlevel : stage.cursor.depth < maxNesting := by omega
    have hdeeper : (stage.next .nests).cursor.depth + levels = maxNesting := by
      rw [← hdepth, Nat.add_comm levels 1, ← Nat.add_assoc]
      rfl
    have hpassed : ∀ {c rest}, s = c :: rest → rest <:+ source.toList ∧
        (stage.before source rest).Clear ∧ Enough source rest 5 left := by
      rintro c rest rfl
      obtain ⟨hrest, hsign⟩ := passed_cons h
      exact ⟨hrest, hclear.later hsign.le, hleft.past hsign le_rfl⟩
    rw [glued]
    refine Answers.recorded (.after (leads_peek h) rfl ?_) False.elim
    split
    · next hdot =>
      obtain ⟨rest, rfl⟩ := List.head?_eq_some_iff.mp hdot
      obtain ⟨hrest, hclear', henough⟩ := hpassed rfl
      rw [scanGlued_field]
      exact answers_nest h hlevel (answers_field ih hopened hrest hdeeper hclear'
        (henough.later le_rfl (by decide)))
    · next hparen =>
      obtain ⟨rest, rfl⟩ := List.head?_eq_some_iff.mp hparen
      obtain ⟨hrest, hclear', henough⟩ := hpassed rfl
      rw [scanGlued]
      exact answers_nest h hlevel (answers_arguments ih hopened hrest hdeeper hclear' henough)
    · next hdot hparen =>
      rw [scanGlued_of_head?_ne name hdot hparen]
      exact .ok (leads_pure _) h le_rfl rfl hclear

end

end TemplateEngine.Markup.Cursor
