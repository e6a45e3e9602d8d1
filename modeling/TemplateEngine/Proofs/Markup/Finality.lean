import TemplateEngine.Proofs.Markup.Faults

/-! # Errors that no later text changes

A scanner that leaves some of its text, or finds an error at a character that can never be right,
never looked past the end of the text. It comes to the same result whatever follows the text, with
all places moved. -/

namespace TemplateEngine

namespace MarkupError

variable {Place Other : Type}

/-- The error was found at a character that is there and can be part of no tag. -/
def IsFinal : MarkupError Place → Prop
  | .unknownToken _ _ => True
  | .nestingTooDeep _ _ => True
  | .statementTag _ => True
  | .unclosedTag _ (some found) _ => found ≠ '\x7d'
  | _ => False

theorem isFinal_map {f : Place → Other} {error : MarkupError Place} :
    (error.map f).IsFinal ↔ error.IsFinal := by
  cases error with
  | unclosedTag opened found place => cases found <;> rfl
  | _ => rfl

end MarkupError

namespace Markup

section

variable {α β : Type}

/-- Some of the text is left, or the error is final. -/
inductive Settled : Except (MarkupError (List Char)) (α × List Char) → Prop
  | ok {a : α} {c : Char} {rest : List Char} : Settled (.ok (a, c :: rest))
  | error {error : MarkupError (List Char)} (h : error.IsFinal) : Settled (.error error)

/-- The same result on a text that `t` follows. -/
def extended (t : List Char) : Except (MarkupError (List Char)) (α × List Char) →
    Except (MarkupError (List Char)) (α × List Char)
  | .ok (a, rest) => .ok (a, rest ++ t)
  | .error error => .error (error.map (· ++ t))

/-- If the first result is settled, the second is the same where `t` follows. -/
def Persists (t : List Char) (result result' : Except (MarkupError (List Char)) (α × List Char)) :
    Prop :=
  Settled result → result' = extended t result

/-- What the first scanner settles on a text, the second finds where `t` follows the text. -/
def Continues (t : List Char) (scan scan' : Scanner α) : Prop :=
  ∀ s, Persists t (scan s) (scan' (s ++ t))

variable {t : List Char} {result result' : Except (MarkupError (List Char)) (α × List Char)}
  {next next' : α × List Char → Except (MarkupError (List Char)) (β × List Char)}

theorem not_settled_ok_nil {a : α} :
    ¬Settled (.ok (a, []) : Except (MarkupError (List Char)) (α × List Char)) := nofun

theorem not_settled_error {error : MarkupError (List Char)} (h : ¬error.IsFinal) :
    ¬Settled (.error error : Except (MarkupError (List Char)) (α × List Char)) := by
  rintro (_ | hfinal)
  exact h hfinal

theorem not_settled_unclosed (opened : List Char) :
    ¬Settled (.error (unclosed opened []) : Except (MarkupError (List Char)) (α × List Char)) :=
  not_settled_error id

theorem not_settled_bind (h : ¬Settled result) (hnil : ∀ a, ¬Settled (next (a, []))) :
    ¬Settled (result >>= next) := by
  rcases result with error | ⟨a, _ | ⟨c, rest⟩⟩
  · rintro (_ | hfinal)
    exact h (.error hfinal)
  · exact hnil a
  · exact absurd .ok h

theorem Persists.of_eq (h : result' = extended t result) : Persists t result result' :=
  fun _ => h

theorem Persists.of_not_settled (h : ¬Settled result) : Persists t result result' :=
  fun hsettled => absurd hsettled h

/-- What follows a scanner goes on only where the scanner leaves some of the text. -/
theorem Persists.bind (h : Persists t result result') (hnil : ∀ a, ¬Settled (next (a, [])))
    (hnext : ∀ a rest, result = .ok (a, rest) →
      Persists t (next (a, rest)) (next' (a, rest ++ t))) :
    Persists t (result >>= next) (result' >>= next') := by
  rcases result with error | ⟨a, _ | ⟨c, rest⟩⟩
  · rintro (_ | hfinal)
    rw [h (.error hfinal)]
    rfl
  · exact .of_not_settled (hnil a)
  · rw [h .ok]
    exact hnext a (c :: rest) rfl

end

section

variable {s t rest : List Char} {c : Char}

theorem skipBlanks_append_of_cons (h : skipBlanks s = c :: rest) (t : List Char) :
    skipBlanks (s ++ t) = c :: (rest ++ t) := by
  rw [skipBlanks] at h
  simp [skipBlanks, List.dropWhile_append, h]

theorem takeIdent_append_of_ne_nil (h : (takeIdent s).2 ≠ []) (t : List Char) :
    takeIdent (s ++ t) = ((takeIdent s).1, (takeIdent s).2 ++ t) := by
  have hdrop : s.dropWhile isIdentContinue ≠ [] := h
  have hlength : (s.takeWhile isIdentContinue).length ≠ s.length := by
    intro heq
    have hsplit := congrArg List.length (List.takeWhile_append_dropWhile (p := isIdentContinue)
      (l := s))
    have hpos := List.length_pos_iff.mpr hdrop
    rw [List.length_append] at hsplit
    omega
  simp [takeIdent, List.takeWhile_append, List.dropWhile_append, hlength, hdrop]

theorem Continues.skipBlanks {α : Type} {scan scan' : Scanner α} (h : Continues t scan scan')
    (hnil : ¬Settled (scan [])) (s : List Char) :
    Persists t (scan (Markup.skipBlanks s)) (scan' (Markup.skipBlanks (s ++ t))) := by
  cases hskip : Markup.skipBlanks s with
  | nil => exact .of_not_settled hnil
  | cons c rest =>
    rw [skipBlanks_append_of_cons hskip]
    exact h (c :: rest)

end

section

variable {opened t : List Char} {levels : Nat}

theorem persists_scanString (quote : Char) (s : List Char) :
    Persists t (scanString quote s) (scanString quote (s ++ t)) := by
  cases hscan : scanString quote s with
  | ok found =>
    obtain ⟨text, hmem, hexpr, rfl⟩ := exists_of_scanString hscan
    refine .of_eq ?_
    rw [List.append_assoc, List.cons_append, scanString_append hmem, ← hexpr]
    rfl
  | error error =>
    unfold scanString at hscan
    split at hscan
    · cases hscan
      exact .of_not_settled (not_settled_error id)
    · cases hscan

theorem continues_scanPrimary {glued glued' : String → Scanner Expr}
    (h : ∀ name, Continues t (glued name) (glued' name))
    (hnil : ∀ name, ¬Settled (glued name [])) :
    Continues t (scanPrimary opened glued) (scanPrimary (opened ++ t) glued') := by
  intro s
  cases hskip : skipBlanks s with
  | nil =>
    simp only [scanPrimary, hskip]
    exact .of_not_settled (not_settled_unclosed opened)
  | cons c rest =>
    simp only [scanPrimary, hskip, skipBlanks_append_of_cons hskip]
    split_ifs
    · by_cases hrest : (takeIdent (c :: rest)).2 = []
      · rw [hrest]
        exact .of_not_settled (hnil _)
      · rw [← List.cons_append, takeIdent_append_of_ne_nil hrest]
        exact h _ _
    · exact persists_scanString c rest
    · exact .of_eq rfl

theorem scanFilters_blanks {primary : Scanner Expr} {s : List Char} (h : skipBlanks s = [])
    (fuel : Nat) (expr : Expr) : scanFilters primary fuel expr s = .ok (expr, []) := by
  cases fuel with
  | zero => rw [scanFilters, h]
  | succ fuel => simp only [scanFilters, h]

theorem persists_scanFilters {primary primary' : Scanner Expr} (h : Continues t primary primary')
    (hnil : ¬Settled (primary [])) (hreads : Reads opened primary) {fuel fuel' : Nat}
    (expr : Expr) {s : List Char} (hfuel : s.length ≤ fuel) (hfuel' : (s ++ t).length ≤ fuel') :
    Persists t (scanFilters primary fuel expr s) (scanFilters primary' fuel' expr (s ++ t)) := by
  induction fuel generalizing fuel' expr s with
  | zero =>
    obtain rfl : s = [] := List.length_eq_zero_iff.mp (by omega)
    exact .of_not_settled not_settled_ok_nil
  | succ fuel ih =>
    cases hskip : skipBlanks s with
    | nil =>
      rw [scanFilters_blanks hskip]
      exact .of_not_settled not_settled_ok_nil
    | cons c rest =>
      have hrest : (c :: rest).length ≤ s.length := hskip ▸ (skipBlanks_suffix s).length_le
      rw [List.length_cons] at hrest
      rw [List.length_append] at hfuel'
      obtain ⟨fuel', rfl⟩ : ∃ inner, fuel' = inner + 1 := ⟨fuel' - 1, by omega⟩
      simp only [scanFilters, hskip, skipBlanks_append_of_cons hskip]
      by_cases hc : c = '|'
      · subst hc
        refine (h.skipBlanks hnil rest).bind (fun filter => ?_) fun filter tail htail => ?_
        · cases filter with
          | var name =>
            dsimp only
            rw [scanFilters_blanks rfl]
            exact not_settled_ok_nil
          | _ => exact not_settled_error id
        · have htail : tail.length ≤ rest.length :=
            (((hreads _).of_leaves htail).trans (skipBlanks_suffix rest)).length_le
          cases filter with
          | var name => exact ih _ (by omega) (by rw [List.length_append]; omega)
          | _ => exact .of_not_settled (not_settled_error id)
      · refine .of_eq ?_
        simp [hc, extended]

theorem continues_scanChain {primary primary' : Scanner Expr} (h : Continues t primary primary')
    (hnil : ¬Settled (primary [])) (hreads : Reads opened primary) :
    Continues t (scanChain primary) (scanChain primary') := by
  intro s
  refine (h s).bind (fun expr => ?_) fun expr rest _ =>
    persists_scanFilters h hnil hreads expr le_rfl le_rfl
  dsimp only
  rw [scanFilters_blanks rfl]
  exact not_settled_ok_nil

theorem not_settled_scanChain_nil {primary : Scanner Expr} (hnil : ¬Settled (primary [])) :
    ¬Settled (scanChain primary []) := by
  refine not_settled_bind hnil fun expr => ?_
  dsimp only
  rw [scanFilters_blanks rfl]
  exact not_settled_ok_nil

/-- A name up to the end of the text may yet turn out to be a label. -/
theorem not_settled_scanChain_bare {primary : Scanner Expr} (h : PrimaryComplete levels primary)
    {name blanks : List Char} (hname : IsIdent name) (hblanks : Blanks blanks) :
    ¬Settled (scanChain primary (name ++ blanks)) := by
  have hskip : skipBlanks blanks = [] := List.dropWhile_eq_nil_iff.mpr hblanks
  have hends : Ends blanks := by simpa using Ends.append_blanks hblanks (s := []) nofun
  have htext : PrimaryText name (.var (String.ofList name)) := by
    simpa using PrimaryText.name hname .nothing
  have hprimary : primary (name ++ blanks) = .ok (.var (String.ofList name), blanks) :=
    h [] name _ _ .nil htext (by simp [Expr.nesting]) hends
  simp only [scanChain, hprimary, ok_bind, scanFilters_blanks hskip]
  exact not_settled_ok_nil

/-- Later text makes a label only of a name at the end of the text. -/
theorem bare_of_takeLabel?_append {s : List Char} (h : takeLabel? s = none)
    (ht : takeLabel? (s ++ t) ≠ none) :
    s = [] ∨ ∃ name blanks, IsIdent name ∧ Blanks blanks ∧ s = name ++ blanks := by
  obtain ⟨⟨label, rest⟩, hlabel⟩ := Option.ne_none_iff_exists'.mp ht
  obtain ⟨name, blanks, hname, hblanks, -, hsplit⟩ := exists_of_takeLabel? hlabel
  rcases List.append_eq_append_iff.mp hsplit with ⟨more, rfl, -⟩ | ⟨after, rfl, hafter⟩
  · cases s with
    | nil => exact Or.inl rfl
    | cons c chars =>
      obtain ⟨_, _, heq, hstart, hall⟩ := hname
      obtain ⟨rfl, rfl⟩ := List.cons.inj heq
      refine Or.inr ⟨c :: chars, [], ⟨c, chars, rfl, hstart, fun d hd => ?_⟩, .nil, by simp⟩
      exact hall d (List.mem_append_left more hd)
  · refine Or.inr ⟨name, after, hname, ?_, rfl⟩
    rcases List.append_eq_append_iff.mp hafter with ⟨sign, rfl, hsign⟩ | ⟨more, rfl, -⟩
    · cases sign with
      | nil => simpa using hblanks
      | cons c tail =>
        obtain ⟨rfl, rfl⟩ := List.cons.inj hsign
        rw [takeLabel?_append hname hblanks] at h
        cases h
    · exact fun c hc => hblanks c (List.mem_append_left more hc)

/-- A chain of filters never settles on a name that may turn out to be a label. -/
def Hesitates (chain : Scanner Expr) : Prop :=
  ¬Settled (chain []) ∧ ∀ name blanks, IsIdent name → Blanks blanks →
    ¬Settled (chain (name ++ blanks))

theorem continues_scanArgument {chain chain' : Scanner Expr} (h : Continues t chain chain')
    (hchain : Hesitates chain) : Continues t (scanArgument chain) (scanArgument chain') := by
  intro s
  unfold scanArgument
  cases hlabel : takeLabel? s with
  | some label =>
    obtain ⟨name, rest⟩ := label
    obtain ⟨chars, blanks, hname, hblanks, rfl, rfl⟩ := exists_of_takeLabel? hlabel
    rw [List.append_assoc, List.append_assoc, List.cons_append, takeLabel?_append hname hblanks]
    exact (h rest).bind (fun _ => not_settled_ok_nil) fun _ _ _ => .of_eq rfl
  | none =>
    by_cases hlabel' : takeLabel? (s ++ t) = none
    · rw [hlabel']
      exact (h s).bind (fun _ => not_settled_ok_nil) fun _ _ _ => .of_eq rfl
    · refine .of_not_settled (not_settled_bind ?_ fun _ => not_settled_ok_nil)
      rcases bare_of_takeLabel?_append hlabel hlabel' with rfl | ⟨name, blanks, hname, hblanks, rfl⟩
      · exact hchain.1
      · exact hchain.2 name blanks hname hblanks

theorem not_settled_scanArgument_nil {chain : Scanner Expr} (hchain : Hesitates chain) :
    ¬Settled (scanArgument chain []) :=
  not_settled_bind hchain.1 fun _ => not_settled_ok_nil

theorem persists_scanArguments {chain chain' : Scanner Expr} (h : Continues t chain chain')
    (hchain : Hesitates chain) (hreads : Reads opened chain) {fuel fuel' : Nat}
    (prior : List Argument) {s : List Char} (hfuel : s.length < fuel)
    (hfuel' : (s ++ t).length < fuel') :
    Persists t (scanArguments opened chain fuel prior s)
      (scanArguments (opened ++ t) chain' fuel' prior (s ++ t)) := by
  induction fuel generalizing fuel' prior s with
  | zero => omega
  | succ fuel ih =>
    obtain ⟨fuel', rfl⟩ : ∃ inner, fuel' = inner + 1 := ⟨fuel' - 1, by omega⟩
    unfold scanArguments
    have hstart := (continues_scanArgument h hchain).skipBlanks
      (not_settled_scanArgument_nil hchain) s
    refine hstart.bind (fun arg => ?_) fun arg rest hrest => ?_
    · dsimp only
      cases repeatsName prior arg with
      | some name => exact not_settled_error id
      | none => exact not_settled_unclosed opened
    have hrest : rest.length ≤ s.length :=
      (((reads_scanArgument hreads _).of_leaves hrest).trans (skipBlanks_suffix s)).length_le
    dsimp only
    cases repeatsName prior arg with
    | some name => exact .of_not_settled (not_settled_error id)
    | none =>
      dsimp only
      cases hskip : skipBlanks rest with
      | nil => exact .of_not_settled (not_settled_unclosed opened)
      | cons c tail =>
        have htail : (c :: tail).length ≤ rest.length := hskip ▸ (skipBlanks_suffix rest).length_le
        rw [List.length_cons] at htail
        rw [List.length_append] at hfuel'
        rw [skipBlanks_append_of_cons hskip]
        by_cases hclose : c = ')'
        · subst hclose
          exact .of_eq rfl
        · by_cases hcomma : c = ','
          · subst hcomma
            exact ih _ (by omega) (by rw [List.length_append]; omega)
          · refine .of_eq ?_
            simp [extended, MarkupError.map]

theorem continues_scanCall {chain chain' : Scanner Expr} (h : Continues t chain chain')
    (hchain : Hesitates chain) (hreads : Reads opened chain) :
    Continues t (scanCall opened chain) (scanCall (opened ++ t) chain') := by
  intro s
  cases hskip : skipBlanks s with
  | nil =>
    simp only [scanCall, hskip]
    refine .of_not_settled (not_settled_bind (not_settled_scanArgument_nil hchain) fun arg => ?_)
    dsimp only
    cases repeatsName [] arg with
    | some name => exact not_settled_error id
    | none => exact not_settled_unclosed opened
  | cons c rest =>
    simp only [scanCall, hskip, skipBlanks_append_of_cons hskip]
    by_cases hclose : c = ')'
    · subst hclose
      exact .of_eq rfl
    · have hargs := persists_scanArguments h hchain hreads [] (Nat.lt_succ_self (c :: rest).length)
        (Nat.lt_succ_self (c :: rest ++ t).length)
      simpa [hclose] using hargs

theorem scanGlued_cons {c : Char} (hdot : c ≠ '.') (hparen : c ≠ '(') (name : String)
    (rest : List Char) : scanGlued opened levels name (c :: rest) = .ok (.var name, c :: rest) := by
  cases levels <;> simp [scanGlued, hdot, hparen]

theorem not_settled_scanGlued_nil (name : String) : ¬Settled (scanGlued opened levels name []) := by
  have hends : Ends [] := nofun
  rw [scanGlued_nothing hends]
  exact not_settled_ok_nil

theorem continues_scanGlued (levels : Nat) (name : String) :
    Continues t (scanGlued opened levels name) (scanGlued (opened ++ t) levels name) := by
  induction levels generalizing name with
  | zero =>
    intro s
    cases s with
    | nil => exact .of_not_settled (not_settled_scanGlued_nil name)
    | cons c rest =>
      by_cases hdot : c = '.'
      · subst hdot
        exact .of_eq rfl
      · by_cases hparen : c = '('
        · subst hparen
          exact .of_eq rfl
        · rw [List.cons_append, scanGlued_cons hdot hparen, scanGlued_cons hdot hparen]
          exact .of_eq rfl
  | succ levels ih =>
    have hprimary : Continues t (scanPrimary opened (scanGlued opened levels))
        (scanPrimary (opened ++ t) (scanGlued (opened ++ t) levels)) :=
      continues_scanPrimary ih fun name => not_settled_scanGlued_nil name
    have hnil : ¬Settled (scanPrimary opened (scanGlued opened levels) []) :=
      not_settled_unclosed opened
    have hreads : Reads opened (scanPrimary opened (scanGlued opened levels)) :=
      reads_scanPrimary (reads_scanGlued levels)
    have hchain : Hesitates (scanChain (scanPrimary opened (scanGlued opened levels))) :=
      ⟨not_settled_scanChain_nil hnil, fun _ _ => not_settled_scanChain_bare
        (scanPrimary_complete (scanGlued_complete levels))⟩
    intro s
    cases s with
    | nil => exact .of_not_settled (not_settled_scanGlued_nil name)
    | cons c rest =>
      by_cases hdot : c = '.'
      · subst hdot
        cases rest with
        | nil => exact .of_not_settled (not_settled_unclosed opened)
        | cons d tail =>
          simp only [List.cons_append, scanGlued]
          split_ifs
          · by_cases hrest : (takeIdent (d :: tail)).2 = []
            · rw [hrest]
              exact .of_not_settled (not_settled_bind (not_settled_scanGlued_nil _)
                fun _ => not_settled_ok_nil)
            · rw [← List.cons_append, takeIdent_append_of_ne_nil hrest]
              exact (ih _ _).bind (fun _ => not_settled_ok_nil) fun _ _ _ => .of_eq rfl
          · exact .of_eq rfl
      · by_cases hparen : c = '('
        · subst hparen
          exact (continues_scanCall (continues_scanChain hprimary hnil hreads) hchain
            (reads_scanChain hreads) rest).bind (fun _ => not_settled_ok_nil)
              fun _ _ _ => .of_eq rfl
        · rw [List.cons_append, scanGlued_cons hdot hparen, scanGlued_cons hdot hparen]
          exact .of_eq rfl

theorem continues_scanExpression :
    Continues t (scanExpression opened) (scanExpression (opened ++ t)) :=
  continues_scanChain
    (continues_scanPrimary (continues_scanGlued maxNesting) fun name =>
      not_settled_scanGlued_nil name)
    (not_settled_unclosed opened) (reads_scanPrimary (reads_scanGlued maxNesting))

theorem continues_scanDisplay : Continues t (scanDisplay opened) (scanDisplay (opened ++ t)) := by
  intro s
  refine (continues_scanExpression s).bind (fun _ => not_settled_unclosed opened)
    fun expr rest _ => ?_
  dsimp only
  cases hskip : skipBlanks rest with
  | nil => exact .of_not_settled (not_settled_unclosed opened)
  | cons c tail =>
    rw [skipBlanks_append_of_cons hskip]
    by_cases hbrace : c = '\x7d'
    · subst hbrace
      cases tail with
      | nil => exact .of_not_settled (not_settled_error fun hfinal => hfinal rfl)
      | cons d tail =>
        by_cases hclose : d = '\x7d'
        · subst hclose
          exact .of_eq rfl
        · refine .of_not_settled ?_
          simp only [List.cons.injEq, hclose, false_and, and_false, imp_self, implies_true]
          exact not_settled_error fun hfinal => hfinal rfl
    · refine .of_eq ?_
      simp [hbrace, extended, unclosed, MarkupError.map]

theorem persists_scanTag {tag : List Char} (h : StartsTag tag) :
    Persists t (scanTag tag tag) (scanTag (tag ++ t) (tag ++ t)) := by
  obtain ⟨c, rest, rfl, rfl | rfl | rfl⟩ := h
  · exact continues_scanDisplay rest
  · exact .of_eq rfl
  · simp only [List.cons_append, scanTag]
    cases hcomment : takeComment? rest with
    | none => exact .of_not_settled (not_settled_error id)
    | some found =>
      obtain ⟨text, after⟩ := found
      obtain ⟨rfl, hclose⟩ := takeComment?_eq_some_iff.mp hcomment
      have hcomment' : takeComment? (text ++ '#' :: '\x7d' :: after ++ t) =
          some (text, after ++ t) :=
        takeComment?_eq_some_iff.mpr ⟨by simp, hclose⟩
      rw [hcomment']
      exact .of_eq rfl

theorem scanNodes_append_of_isFinal {fuel fuel' : Nat} {s : List Char}
    {error : MarkupError (List Char)} (h : scanNodes fuel s = .error error) (hfinal : error.IsFinal)
    (hfuel : (s ++ t).length ≤ fuel') :
    scanNodes fuel' (s ++ t) = .error (error.map (· ++ t)) := by
  obtain ⟨front, tag, nodes, rfl, hfront, hwithin, htag, hmeet, hscan⟩ := exists_tag_of_scanNodes h
  have hmeet' : ¬MeetInTag front (tag ++ t) := by
    rintro ⟨hlast, hopens⟩
    rw [List.head?_append_of_ne_nil _ htag.ne_nil] at hopens
    exact hmeet ⟨hlast, hopens⟩
  have hscan' : scanTag (tag ++ t) (tag ++ t) = .error (error.map (· ++ t)) := by
    have hpersists := persists_scanTag (t := t) htag
    rw [hscan] at hpersists
    exact hpersists (.error hfinal)
  have hcut : takeRaw (tag ++ t) = ([], tag ++ t) :=
    takeRaw_complete (.nil _) (Or.inr (htag.append t))
  rw [List.append_assoc] at hfuel ⊢
  rw [hfront.scanNodes_append hwithin hmeet' hfuel (Nat.le_succ _),
    scanNodes_of_tag hcut (htag.append t).ne_nil, hscan']
  rfl

end

/-- An error that is found at a character which can be part of no tag stays the same error at the
same place, whatever text follows. -/
theorem parse_append_of_isFinal {first : String} {error : MarkupError Position}
    (h : parse first = .error error) (hfinal : error.IsFinal) (second : String) :
    parse (first ++ second) = .error error := by
  unfold parse at h ⊢
  dsimp only at h ⊢
  cases hscan : scanNodes first.toList.length first.toList with
  | ok nodes =>
    rw [hscan] at h
    cases h
  | error found =>
    rw [hscan] at h
    cases h
    have hscan' : scanNodes (first ++ second).toList.length (first ++ second).toList =
        .error (found.map (· ++ second.toList)) := by
      rw [String.toList_append]
      exact scanNodes_append_of_isFinal hscan (MarkupError.isFinal_map.mp hfinal) le_rfl
    have hplaces : ∀ place ∈ found.places,
        Position.before (first ++ second).toList (place ++ second.toList) =
          Position.before first.toList place := by
      intro place hmem
      have hlength := (scanNodes_within hscan place hmem).length_le
      have htake : (first ++ second).toList.length - (place ++ second.toList).length =
          first.toList.length - place.length := by
        rw [String.toList_append, List.length_append, List.length_append]
        omega
      rw [Position.before, Position.before, htake, String.toList_append,
        List.take_append_of_le_length (Nat.sub_le _ _)]
    rw [hscan']
    exact congrArg Except.error
      ((MarkupError.map_map _ _ found).trans (MarkupError.map_congr hplaces))

/-- The stray sign in the second line stays the error, although later text closes the call and the
tag, and leaves another comment open. -/
theorem parse_append_of_isFinal_letter :
    parse "Grüße\n\x7b\x7b f(a %" = .error (.unknownToken '%' ⟨2, 8⟩) ∧
      parse ("Grüße\n\x7b\x7b f(a %" ++ ") \x7d\x7d \x7b# x") =
        .error (.unknownToken '%' ⟨2, 8⟩) := by
  have hparse : parse "Grüße\n\x7b\x7b f(a %" = .error (.unknownToken '%' ⟨2, 8⟩) := rfl
  exact ⟨hparse, parse_append_of_isFinal hparse trivial _⟩

/-- A brace that no brace follows may yet close the tag. -/
example : parse "\x7b\x7b a \x7d" = .error (.unclosedTag ⟨1, 1⟩ (some '\x7d') ⟨1, 6⟩) ∧
    parse ("\x7b\x7b a \x7d" ++ "\x7d") = .ok (.source [.display (.var "a")]) := ⟨rfl, rfl⟩

end Markup

end TemplateEngine
