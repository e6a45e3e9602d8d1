import TemplateEngine.Proofs.Markup.Concatenation

/-! # What errors in markup point at

Markup is wrong from its first bad tag on. What comes before that tag is markup of its own, and what
stands at the places of the error shows what is wrong with the tag. -/

namespace TemplateEngine.Markup

/-- What stands at the places of an error, if it was found in a display tag that was opened at
`opened` and goes on with `s`. -/
inductive Shows (opened s : List Char) : MarkupError (List Char) → Prop
  | unknownToken {token : Char} {rest : List Char} (h : token :: rest <:+ s) :
      Shows opened s (.unknownToken token (token :: rest))
  | unterminatedString {quote : Char} {rest : List Char} (hquote : quote = '"' ∨ quote = '\'')
      (hmem : quote ∉ rest) (h : quote :: rest <:+ s) :
      Shows opened s (.unterminatedString (quote :: rest))
  | unclosedTag {rest : List Char} (hclose : ¬['\x7d', '\x7d'] <+: rest) (h : rest <:+ s) :
      Shows opened s (.unclosedTag opened rest.head? rest)
  /-- A string, or a name that something is glued to, stands after a pipe. -/
  | expectedFilterName {blanks text rest : List Char} {expr : Expr} (hblanks : Blanks blanks)
      (primary : PrimaryText text expr) (hexpr : ∀ name, expr ≠ .var name)
      (h : '|' :: (blanks ++ (text ++ rest)) <:+ s) :
      Shows opened s (.expectedFilterName (text ++ rest))
  | nestingTooDeep {sign : Char} {rest : List Char} (hsign : sign = '.' ∨ sign = '(')
      (h : sign :: rest <:+ s) : Shows opened s (.nestingTooDeep maxNesting rest)
  | duplicateArgument {name blanks rest : List Char} (hname : IsIdent name)
      (hblanks : Blanks blanks) (h : name ++ (blanks ++ '=' :: rest) <:+ s) :
      Shows opened s
        (.duplicateArgument (String.ofList name) (name ++ (blanks ++ '=' :: rest)))

/-- What stands at the places of an error, if it was found in the tag that starts the text. -/
inductive PointsInto : List Char → MarkupError (List Char) → Prop
  | display {s : List Char} {error : MarkupError (List Char)}
      (h : Shows ('\x7b' :: '\x7b' :: s) s error) : PointsInto ('\x7b' :: '\x7b' :: s) error
  | comment {s : List Char} (h : ¬['#', '\x7d'] <:+: s) :
      PointsInto ('\x7b' :: '#' :: s) (.unterminatedComment ('\x7b' :: '#' :: s))
  | statement {s : List Char} :
      PointsInto ('\x7b' :: '%' :: s) (.statementTag ('\x7b' :: '%' :: s))

/-- If the result is an error, the text shows it. -/
def Founded {α : Type} (opened s : List Char)
    (result : Except (MarkupError (List Char)) (α × List Char)) : Prop :=
  ∀ error, result = .error error → Shows opened s error

section

variable {opened s t : List Char} {α β : Type}

theorem Shows.mono {error : MarkupError (List Char)} (h : Shows opened t error) (ht : t <:+ s) :
    Shows opened s error := by
  cases h with
  | unknownToken h => exact .unknownToken (h.trans ht)
  | unterminatedString hquote hmem h => exact .unterminatedString hquote hmem (h.trans ht)
  | unclosedTag hclose h => exact .unclosedTag hclose (h.trans ht)
  | expectedFilterName hblanks primary hexpr h =>
    exact .expectedFilterName hblanks primary hexpr (h.trans ht)
  | nestingTooDeep hsign h => exact .nestingTooDeep hsign (h.trans ht)
  | duplicateArgument hname hblanks h => exact .duplicateArgument hname hblanks (h.trans ht)

theorem shows_unclosed_nil : Shows opened s (unclosed opened []) :=
  .unclosedTag (by simp) List.nil_suffix

namespace Founded

theorem ok {a : α} {rest : List Char} : Founded opened s (.ok (a, rest)) := nofun

theorem error {error : MarkupError (List Char)} (h : Shows opened s error) :
    Founded opened s (.error error : Except (MarkupError (List Char)) (α × List Char)) := by
  intro other hother
  exact Except.error.inj hother ▸ h

theorem mono {result : Except (MarkupError (List Char)) (α × List Char)}
    (h : Founded opened t result) (ht : t <:+ s) : Founded opened s result :=
  fun error herror => (h error herror).mono ht

theorem bind {result : Except (MarkupError (List Char)) (α × List Char)}
    {next : α × List Char → Except (MarkupError (List Char)) (β × List Char)}
    (h : Founded opened s result)
    (hnext : ∀ a rest, result = .ok (a, rest) → Founded opened s (next (a, rest))) :
    Founded opened s (result >>= next) := by
  intro error herror
  obtain hfirst | ⟨⟨a, rest⟩, hfirst, herror⟩ := bind_eq_error herror
  · exact h error hfirst
  · exact hnext a rest hfirst error herror

end Founded

/-- Every error of the scanner is one that the text shows. -/
def Justified (opened : List Char) (scan : Scanner α) : Prop :=
  ∀ s, Founded opened s (scan s)

theorem founded_scanString {quote : Char} (hquote : quote = '"' ∨ quote = '\'')
    (s : List Char) : Founded opened (quote :: s) (scanString quote s) := by
  unfold scanString
  split
  · next heq =>
    have hmem : quote ∉ s := by
      intro hmem
      have hne := List.dropWhile_eq_nil_iff.mp heq quote hmem
      simp at hne
    exact .error (.unterminatedString hquote hmem List.suffix_rfl)
  · exact .ok

theorem justified_scanPrimary {glued : String → Scanner Expr}
    (h : ∀ name, Justified opened (glued name)) : Justified opened (scanPrimary opened glued) := by
  intro s
  have hblanks := skipBlanks_suffix s
  unfold scanPrimary
  split
  · exact .error shows_unclosed_nil
  · next c tail heq =>
    rw [heq] at hblanks
    split_ifs with hstart hquote
    · exact (h _ _).mono ((takeIdent_suffix (c :: tail)).trans hblanks)
    · exact (founded_scanString (by simpa using hquote) tail).mono hblanks
    · exact .error (.unknownToken hblanks)

theorem blanks_eq_nil_of_skipBlanks {before : List Char} (h : skipBlanks s = before ++ t)
    (hbefore : Blanks before) : before = [] := by
  cases before with
  | nil => rfl
  | cons c before =>
    have hnot := List.head?_dropWhile_not Unicode.isWhiteSpace s
    have hblank : Unicode.isWhiteSpace c = true := hbefore c (by simp)
    rw [skipBlanks, List.cons_append] at h
    simp [h, hblank] at hnot

theorem justified_scanFilters {primary : Scanner Expr} {levels : Nat}
    (h : Justified opened primary) (hreads : Reads opened primary)
    (hsound : PrimarySound levels primary) (fuel : Nat) (expr : Expr) :
    Justified opened (scanFilters primary fuel expr) := by
  induction fuel generalizing expr with
  | zero => exact fun s => .ok
  | succ fuel ih =>
    intro s
    unfold scanFilters
    split
    · next tail heq =>
      have hpipe : '|' :: tail <:+ s := heq ▸ skipBlanks_suffix s
      have hstart : skipBlanks tail <:+ s :=
        (skipBlanks_suffix tail).trans (suffix_of_skipBlanks_eq_cons heq)
      refine ((h _).mono hstart).bind fun filter rest hfilter => ?_
      have hrest : rest <:+ s := ((hreads _).of_leaves hfilter).trans hstart
      obtain ⟨before, text, hsplit, hbefore, hprimary, -⟩ := hsound _ _ _ hfilter
      obtain rfl := blanks_eq_nil_of_skipBlanks hsplit hbefore
      obtain ⟨blanks, hblanks, hskip⟩ := exists_blanks tail
      rw [List.nil_append] at hsplit
      rw [hsplit] at hskip
      rw [hskip] at hpipe
      have hshows : (∀ name, filter ≠ .var name) →
          Shows opened s (.expectedFilterName (skipBlanks tail)) := by
        intro hexpr
        rw [hsplit]
        exact .expectedFilterName hblanks hprimary hexpr hpipe
      cases filter with
      | var name => exact (ih _ rest).mono hrest
      | _ => exact .error (hshows nofun)
    · exact .ok

theorem justified_scanChain {primary : Scanner Expr} {levels : Nat} (h : Justified opened primary)
    (hreads : Reads opened primary) (hsound : PrimarySound levels primary) :
    Justified opened (scanChain primary) := fun s =>
  (h s).bind fun expr rest hrest =>
    (justified_scanFilters h hreads hsound rest.length expr rest).mono
      ((hreads s).of_leaves hrest)

theorem justified_scanArgument {chain : Scanner Expr} (h : Justified opened chain) :
    Justified opened (scanArgument chain) := by
  intro s
  unfold scanArgument
  cases hlabel : takeLabel? s with
  | none => exact (h s).bind fun expr rest hrest => .ok
  | some label =>
    obtain ⟨name, tail⟩ := label
    exact ((h tail).mono (takeLabel?_suffix hlabel)).bind fun expr rest hrest => .ok

theorem name_of_repeatsName {prior : List Argument} {arg : Argument} {name : String}
    (h : repeatsName prior arg = some name) : arg.name = some name := by
  unfold repeatsName at h
  split at h
  · cases h
  · next label hlabel =>
    split_ifs at h
    cases h
    exact hlabel

theorem exists_of_scanArgument {chain : Scanner Expr} {arg : Argument} {name : String}
    (h : scanArgument chain s = .ok (arg, t)) (hname : arg.name = some name) :
    ∃ chars blanks rest, IsIdent chars ∧ Blanks blanks ∧ name = String.ofList chars ∧
      s = chars ++ (blanks ++ '=' :: rest) := by
  unfold scanArgument at h
  cases hlabel : takeLabel? s with
  | none =>
    simp only [hlabel] at h
    obtain ⟨found, -, h⟩ := exists_of_bind_eq_ok h
    cases h
    cases hname
  | some label =>
    obtain ⟨label, tail⟩ := label
    simp only [hlabel] at h
    obtain ⟨found, -, h⟩ := exists_of_bind_eq_ok h
    cases h
    obtain rfl := Option.some.inj hname
    obtain ⟨chars, blanks, hchars, hblanks, rfl, rfl⟩ := exists_of_takeLabel? hlabel
    exact ⟨chars, blanks, tail, hchars, hblanks, rfl, rfl⟩

theorem founded_scanArguments {chain : Scanner Expr} (h : Justified opened chain)
    (hreads : Reads opened chain) {fuel : Nat} (prior : List Argument)
    (hfuel : s.length < fuel) : Founded opened s (scanArguments opened chain fuel prior s) := by
  induction fuel generalizing prior s with
  | zero => omega
  | succ fuel ih =>
    have hstart := skipBlanks_suffix s
    refine ((justified_scanArgument h _).mono hstart).bind fun arg rest harg => ?_
    have hrest : rest <:+ s := ((reads_scanArgument hreads _).of_leaves harg).trans hstart
    have hblanks : skipBlanks rest <:+ s := (skipBlanks_suffix rest).trans hrest
    dsimp only
    split
    · next name hrepeats =>
      obtain ⟨chars, blanks, tail, hchars, hbetween, rfl, hsplit⟩ :=
        exists_of_scanArgument harg (name_of_repeatsName hrepeats)
      rw [hsplit] at hstart ⊢
      exact .error (.duplicateArgument hchars hbetween hstart)
    · split
      · exact .ok
      · next tail heq =>
        rw [heq] at hblanks
        have htail : tail.length < s.length := hblanks.length_le
        exact (ih _ (by omega)).mono ((List.suffix_cons _ _).trans hblanks)
      · exact .error shows_unclosed_nil
      · next c tail _ _ heq => exact .error (.unknownToken (heq ▸ hblanks))

theorem justified_scanCall {chain : Scanner Expr} (h : Justified opened chain)
    (hreads : Reads opened chain) : Justified opened (scanCall opened chain) := by
  intro s
  unfold scanCall
  split
  · exact .ok
  · exact (founded_scanArguments h hreads [] (Nat.lt_succ_self _)).mono (skipBlanks_suffix s)

theorem justified_scanGlued (levels : Nat) (name : String) :
    Justified opened (scanGlued opened levels name) := by
  induction levels generalizing name with
  | zero =>
    intro s
    unfold scanGlued
    split
    · exact .error (.nestingTooDeep (Or.inl rfl) List.suffix_rfl)
    · exact .error (.nestingTooDeep (Or.inr rfl) List.suffix_rfl)
    · next heq => simp at heq
    · next heq => simp at heq
    · exact .ok
  | succ levels ih =>
    intro s
    unfold scanGlued
    split
    · exact .error (.nestingTooDeep (Or.inl rfl) List.suffix_rfl)
    · exact .error (.nestingTooDeep (Or.inr rfl) List.suffix_rfl)
    · next inner tail heq =>
      obtain rfl : levels = inner := by simpa using heq
      split
      · exact .error shows_unclosed_nil
      · next c tail =>
        have hfield := (takeIdent_suffix (c :: tail)).trans (List.suffix_cons '.' (c :: tail))
        split_ifs
        · exact ((ih _ _).mono hfield).bind fun accessor rest hrest => .ok
        · exact .error (.unknownToken (List.suffix_cons _ _))
    · next inner tail heq =>
      obtain rfl : levels = inner := by simpa using heq
      have hprimary : Reads opened (scanPrimary opened (scanGlued opened levels)) :=
        reads_scanPrimary (reads_scanGlued levels)
      have hchain := justified_scanChain (justified_scanPrimary ih) hprimary
        (scanPrimary_sound (scanGlued_sound levels))
      have hcall := justified_scanCall hchain (reads_scanChain hprimary) tail
      exact (hcall.mono (List.suffix_cons _ _)).bind fun args rest hrest => .ok
    · exact .ok

theorem justified_scanExpression : Justified opened (scanExpression opened) :=
  justified_scanChain (justified_scanPrimary (justified_scanGlued maxNesting))
    (reads_scanPrimary (reads_scanGlued maxNesting))
    (scanPrimary_sound (scanGlued_sound maxNesting))

theorem justified_scanDisplay : Justified opened (scanDisplay opened) := by
  intro s
  refine (justified_scanExpression s).bind fun expr rest hrest => ?_
  have hblanks : skipBlanks rest <:+ s :=
    (skipBlanks_suffix rest).trans ((reads_scanExpression s).of_leaves hrest)
  dsimp only
  split
  · exact .ok
  · next hnot =>
    refine .error (.unclosedTag ?_ hblanks)
    rintro ⟨tail, heq⟩
    exact hnot tail heq.symm

theorem takeComment?_eq_none_iff : takeComment? s = none ↔ ¬['#', '\x7d'] <:+: s := by
  fun_induction takeComment? s with
  | case1 => simp
  | case2 tail =>
    simp only [reduceCtorEq, false_iff, not_not]
    exact ⟨[], tail, rfl⟩
  | case3 c tail hnot ih =>
    rw [Option.map_eq_none_iff, ih, infix_cons_iff, not_or, iff_and_self]
    rintro - ⟨rfl, hhead⟩
    obtain ⟨rest, rfl⟩ := List.head?_eq_some_iff.mp hhead
    exact hnot rest rfl rfl

theorem pointsInto_of_scanTag {tag : List Char} {error : MarkupError (List Char)}
    (htag : StartsTag tag) (h : scanTag tag tag = .error error) : PointsInto tag error := by
  obtain ⟨c, rest, rfl, rfl | rfl | rfl⟩ := htag
  · exact .display (justified_scanDisplay rest error h)
  · cases h
    exact .statement
  · simp only [scanTag] at h
    split at h
    · cases h
    · next hcomment =>
      cases h
      exact .comment (takeComment?_eq_none_iff.mp hcomment)

theorem TagText.getLast? {tag : List Char} {node : Node} (h : TagText tag node) :
    tag.getLast? = some '\x7d' := by
  cases h with
  | comment hclose => simp [List.getLast?_cons, List.getLast?_append]
  | display hbefore chain hafter => simp [List.getLast?_cons, List.getLast?_append]

/-- Markup with an error is markup without one up to the tag in which the error is. -/
theorem exists_tag_of_scanNodes {fuel : Nat} {error : MarkupError (List Char)}
    (h : scanNodes fuel s = .error error) :
    ∃ front tag nodes, s = front ++ tag ∧ NodesText front nodes ∧
      DisplaysWithin maxNesting nodes ∧ StartsTag tag ∧ ¬MeetInTag front tag ∧
        scanTag tag tag = .error error := by
  induction fuel generalizing s with
  | zero =>
    rw [scanNodes_zero] at h
    cases h
  | succ fuel ih =>
    obtain ⟨hcut, -⟩ | ⟨raw, tag, hcut, rfl, hraw, htag⟩ := takeRaw_cases s
    · rw [scanNodes_of_nil hcut] at h
      cases h
    · rw [scanNodes_of_tag hcut htag.ne_nil] at h
      obtain hscan | ⟨⟨node, rest⟩, hscan, h⟩ := bind_eq_error h
      · have hnone : RawBefore raw [] := RawBefore.of_append (t := tag) hraw
        exact ⟨raw, tag, contentOf raw, rfl, .raw hnone, displaysWithin_contentOf maxNesting raw,
          htag, hraw.not_meetInTag, hscan⟩
      · obtain hnodes | ⟨nodes, -, h⟩ := bind_eq_error h
        · obtain ⟨text, rfl, htext, hnode⟩ := scanTag_sound htag hscan
          obtain ⟨front, next, nodes, rfl, hfront, hwithin, hnext, hmeet, herror⟩ := ih hnodes
          rw [← List.append_assoc] at hraw
          refine ⟨raw ++ (text ++ front), next, contentOf raw ++ node :: nodes, by simp,
            .tag hraw.of_append htext hfront, displaysWithin_tag.mpr ⟨hnode, hwithin⟩, hnext,
            ?_, herror⟩
          rintro ⟨hlast, hopens⟩
          rw [List.getLast?_append, List.getLast?_append, htext.getLast?] at hlast
          cases hend : front.getLast? with
          | none => simp [hend] at hlast
          | some c =>
            have hlast : front.getLast? = some '\x7b' := by simpa [hend] using hlast
            exact hmeet ⟨hlast, hopens⟩
        · cases h

/-- If markup is rejected, there is a first tag that can be read in no way. The markup before that
tag is accepted, all places of the error are rests of the text, and what stands at them is what the
error says. -/
theorem parse_error_pointsInto {source : String} {error : MarkupError Position}
    (h : parse source = .error error) :
    ∃ front tag found, source.toList = front ++ tag ∧
      (∃ nodes, parse (String.ofList front) = .ok (.source nodes)) ∧ ¬MeetInTag front tag ∧
      (∀ text rest node, tag = text ++ rest → TagText text node →
        ¬DisplaysWithin maxNesting [node]) ∧
      PointsInto tag found ∧ (∀ place ∈ found.places, place <:+ source.toList) ∧
      error = found.map (Position.before source.toList) := by
  unfold parse at h
  dsimp only at h
  cases hscan : scanNodes source.toList.length source.toList with
  | ok nodes =>
    rw [hscan] at h
    cases h
  | error found =>
    rw [hscan] at h
    cases h
    obtain ⟨front, tag, nodes, hsplit, hfront, hwithin, htag, hmeet, herror⟩ :=
      exists_tag_of_scanNodes hscan
    have hparse : parse (String.ofList front) = .ok (.source nodes) :=
      parse_of_nodesText (by rwa [String.toList_ofList]) hwithin
    refine ⟨front, tag, found, hsplit, ⟨nodes, hparse⟩, hmeet, ?_,
      pointsInto_of_scanTag htag herror, scanNodes_within hscan, rfl⟩
    rintro text rest node rfl htext hnode
    rw [scanTag_complete htext hnode] at herror
    cases herror

/-- A letter with two tags, of which the second names an argument twice. -/
def sizedTwice : String :=
  "Grüße \x7b\x7b an \x7d\x7d,\n\x7b\x7b f(größe = a,\n größe = b) \x7d\x7d"

theorem parse_error_pointsInto_sizedTwice :
    parse sizedTwice = .error (.duplicateArgument "größe" ⟨3, 2⟩) ∧
      ∃ front tag found, sizedTwice.toList = front ++ tag ∧
        (∃ nodes, parse (String.ofList front) = .ok (.source nodes)) ∧ PointsInto tag found ∧
        .duplicateArgument "größe" ⟨3, 2⟩ = found.map (Position.before sizedTwice.toList) := by
  have hparse : parse sizedTwice = .error (.duplicateArgument "größe" ⟨3, 2⟩) := rfl
  obtain ⟨front, tag, found, hsplit, hfront, -, -, hpoints, -, herror⟩ :=
    parse_error_pointsInto hparse
  exact ⟨hparse, front, tag, found, hsplit, hfront, hpoints, herror⟩

/-- A quote that is never closed is pointed at, and not the end of the text. -/
example : parse "\x7b\x7b f(\"a') \x7d\x7d" = .error (.unterminatedString ⟨1, 6⟩) := rfl

end

end TemplateEngine.Markup
