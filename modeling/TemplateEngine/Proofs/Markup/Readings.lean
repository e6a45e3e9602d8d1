import TemplateEngine.Proofs.Markup.Discipline
import TemplateEngine.Proofs.Markup.Offsets
import TemplateEngine.Proofs.Markup.Places

/-! # Where readings lead

A reading that comes to an end leads from a stage to a stage, by acts that are allowed. -/

namespace TemplateEngine.Markup.Cursor

open String (utf8Len)

variable {source : String}

/-- The offset at which a rest of the source is still to come. -/
def offsetBefore (source : String) (rest : List Char) : Nat :=
  source.utf8ByteSize - utf8Len rest

theorem utf8Len_toList (source : String) : utf8Len source.toList = source.utf8ByteSize := by
  rw [← String.utf8ByteSize_ofList, String.ofList_toList]

theorem utf8Len_of_append_eq {front rest : List Char} (h : front ++ rest = source.toList) :
    utf8Len front = offsetBefore source rest := by
  rw [offsetBefore, ← utf8Len_toList, ← h, String.utf8Len_append, Nat.add_sub_cancel]

theorem offsetBefore_append {mid rest : List Char} (h : mid ++ rest <:+ source.toList) :
    offsetBefore source rest = offsetBefore source (mid ++ rest) + utf8Len mid := by
  obtain ⟨front, hfront⟩ := h
  rw [← utf8Len_of_append_eq hfront, ← String.utf8Len_append]
  refine (utf8Len_of_append_eq ?_).symm
  rw [List.append_assoc, hfront]

theorem offsetBefore_cons {c : Char} {rest : List Char} (h : c :: rest <:+ source.toList) :
    offsetBefore source rest = offsetBefore source (c :: rest) + c.utf8Size := by
  have hsplit : offsetBefore source rest = offsetBefore source (c :: rest) + utf8Len [c] :=
    @offsetBefore_append source [c] rest h
  rwa [String.utf8Len_cons, String.utf8Len_nil, Nat.zero_add] at hsplit

theorem offsetBefore_le {s t : List Char} (h : s <:+ source.toList) (ht : t <:+ s) :
    offsetBefore source s ≤ offsetBefore source t := by
  obtain ⟨mid, rfl⟩ := ht
  rw [offsetBefore_append h]
  exact Nat.le_add_right _ _

theorem offsetBefore_lt {c : Char} {rest t : List Char} (h : c :: rest <:+ source.toList)
    (ht : t <:+ rest) : offsetBefore source (c :: rest) < offsetBefore source t := by
  have hrest := offsetBefore_le ((List.suffix_cons c rest).trans h) ht
  have hsize := c.utf8Size_pos
  rw [offsetBefore_cons h] at hrest
  omega

theorem length_lt_of_offsetBefore_lt {s t : List Char} (hs : s <:+ source.toList)
    (ht : t <:+ source.toList) (hlt : offsetBefore source s < offsetBefore source t) :
    t.length < s.length := by
  rcases List.suffix_or_suffix_of_suffix hs ht with hsuffix | hsuffix
  · exact absurd hlt (Nat.not_lt.mpr (offsetBefore_le ht hsuffix))
  · refine lt_of_le_of_ne hsuffix.length_le fun hlength => ?_
    rw [hsuffix.eq_of_length hlength] at hlt
    exact absurd hlt (Nat.lt_irrefl _)

theorem passed_cons {c : Char} {rest : List Char} (h : c :: rest <:+ source.toList) :
    rest <:+ source.toList ∧ offsetBefore source (c :: rest) < offsetBefore source rest :=
  ⟨(List.suffix_cons c rest).trans h, offsetBefore_lt h List.suffix_rfl⟩

theorem passed_blanks {s : List Char} (h : s <:+ source.toList) :
    skipBlanks s <:+ source.toList ∧
      offsetBefore source s ≤ offsetBefore source (skipBlanks s) :=
  ⟨(skipBlanks_suffix s).trans h, offsetBefore_le h (skipBlanks_suffix s)⟩

theorem takeBytes?_offsetBefore {front rest : List Char} (h : front ++ rest = source.toList) :
    Position.takeBytes? source.toList (offsetBefore source rest) = some front :=
  Position.takeBytes?_eq_some_iff.mpr ⟨⟨rest, h⟩, utf8Len_of_append_eq h⟩

theorem isBoundary_offsetBefore {rest : List Char} (h : rest <:+ source.toList) :
    IsBoundary source (offsetBefore source rest) := by
  obtain ⟨front, hfront⟩ := h
  exact Position.isValid_iff_exists_takeBytes?.mpr ⟨front, takeBytes?_offsetBefore hfront⟩

theorem cut?_offsetBefore {mid rest : List Char} (h : mid ++ rest <:+ source.toList) :
    cut? source (offsetBefore source (mid ++ rest)) (offsetBefore source rest) = some mid := by
  obtain ⟨front, hfront⟩ := h
  have hle := offsetBefore_append ⟨front, hfront⟩
  have htake := takeBytes?_offsetBefore hfront
  have hmid : Position.takeBytes? (mid ++ rest) (utf8Len mid) = some mid :=
    Position.takeBytes?_eq_some_iff.mpr ⟨List.prefix_append mid rest, rfl⟩
  rw [cut?, if_pos (by omega), htake, hle, Nat.add_sub_cancel_left, Option.bind_eq_bind,
    Option.bind_some, ← hfront, List.drop_left, hmid]

/-- The fuel lasts for four calls for each byte to come, and for so many more. -/
def Enough (source : String) (s : List Char) (more fuel : Nat) : Prop :=
  4 * source.utf8ByteSize + more ≤ fuel + 4 * offsetBefore source s

section

variable {s t : List Char} {more more' fuel : Nat}

theorem Enough.exists_succ (h : Enough source s (more + 1) fuel) :
    ∃ left, fuel = left + 1 ∧ Enough source s more left := by
  have hle : offsetBefore source s ≤ source.utf8ByteSize := Nat.sub_le _ _
  unfold Enough at *
  exact ⟨fuel - 1, by omega, by omega⟩

theorem Enough.later (h : Enough source s more fuel)
    (hle : offsetBefore source s ≤ offsetBefore source t) (hmore : more' ≤ more) :
    Enough source t more' fuel := by
  unfold Enough at *
  omega

theorem Enough.past (h : Enough source s more fuel)
    (hlt : offsetBefore source s < offsetBefore source t) (hmore : more' ≤ more + 4) :
    Enough source t more' fuel := by
  unfold Enough at *
  omega

end

/-- The stage with the cursor before a rest of the source. -/
def Stage.before (stage : Stage) (source : String) (rest : List Char) : Stage :=
  { stage with cursor := ⟨offsetBefore source rest, stage.cursor.depth⟩ }

/-- From one stage a reading leads to a result and another stage, whatever was noted down so far. -/
def Leads {α : Type} (source : String) (reading : Reading α) (stage : Stage)
    (result : Except Halt α) (last : Stage) : Prop :=
  ∃ acts, Run source stage acts ∧ stage.after acts = last ∧
    ∀ past, reading.run.run ⟨stage.cursor, past⟩ = some (result, ⟨last.cursor, past ++ acts⟩)

section

variable {α β : Type} {stage mid last : Stage}

theorem leads_idle {reading : Reading α} {result : Except Halt α}
    (h : ∀ past, reading.run.run ⟨stage.cursor, past⟩ =
      some (result, ⟨stage.cursor, past⟩)) : Leads source reading stage result stage := by
  refine ⟨[], .nil, rfl, fun past => ?_⟩
  rw [List.append_nil]
  exact h past

theorem leads_pure (a : α) : Leads source (pure a) stage (.ok a) stage :=
  leads_idle fun _ => rfl

theorem leads_throw (halt : Halt) :
    Leads source (throw halt : Reading α) stage (.error halt) stage :=
  leads_idle fun _ => rfl

theorem leads_here : Leads source here stage (.ok stage.cursor) stage :=
  leads_idle fun _ => rfl

theorem leads_act {act : Act} (h : Allowed source stage act) :
    Leads source (Cursor.act act) stage (.ok ()) (stage.next act) :=
  ⟨[act], .cons h .nil, rfl, fun _ => rfl⟩

theorem run_bind (reading : Reading α) (f : α → Reading β) (session : Session) :
    (reading >>= f).run.run session =
      (reading.run.run session).bind fun (result, session) =>
        (ExceptT.bindCont f result).run session := rfl

theorem Leads.bind {reading : Reading α} {f : α → Reading β} {a : α} {result : Except Halt β}
    (h : Leads source reading stage (.ok a) mid) (hf : Leads source (f a) mid result last) :
    Leads source (reading >>= f) stage result last := by
  obtain ⟨acts, hrun, rfl, hresult⟩ := h
  obtain ⟨more, hmore, rfl, hresult'⟩ := hf
  refine ⟨acts ++ more, hrun.append hmore, Stage.after_append, fun past => ?_⟩
  rw [run_bind, hresult, Option.bind_some, ← List.append_assoc]
  exact hresult' (past ++ acts)

theorem Leads.bind_error {reading : Reading α} {f : α → Reading β} {halt : Halt}
    (h : Leads source reading stage (.error halt) last) :
    Leads source (reading >>= f) stage (.error halt) last := by
  obtain ⟨acts, hrun, hlast, hresult⟩ := h
  refine ⟨acts, hrun, hlast, fun past => ?_⟩
  rw [run_bind, hresult]
  rfl

theorem Leads.concluded {reading : Reading α} {result : Except Halt α}
    (act : Except Halt α → Act) (h : Leads source reading stage result last)
    (hact : Allowed source last (act result)) :
    Leads source (Cursor.concluded act reading) stage result (last.next (act result)) := by
  obtain ⟨acts, hrun, rfl, hresult⟩ := h
  refine ⟨acts ++ [act result], hrun.append (.cons hact .nil), Stage.after_append,
    fun past => ?_⟩
  have hconcluded : (Cursor.concluded act reading).run.run ⟨stage.cursor, past⟩ =
      (reading.run.run ⟨stage.cursor, past⟩).bind fun (result, session) =>
        (do note (act result); return result : Tape (Except Halt α)).run session := rfl
  rw [hconcluded, hresult, ← List.append_assoc]
  rfl

/-- Where a routine leads is not changed by noting down how it ended. -/
theorem Leads.recorded {reading : Reading α} {routine : Routine} {result : Except Halt α}
    (h : Leads source reading stage result last)
    (hreturns : Allowed source last (.returns routine stage.cursor result.isOk)) :
    Leads source (recorded routine reading) stage result last :=
  leads_here.bind (h.concluded _ hreturns)

def Stage.left (stage : Stage) : Stage :=
  stage.next .unnests

theorem Leads.unnested {reading : Reading α} {result : Except Halt α}
    (h : Leads source reading stage result last) (hdepth : 0 < last.cursor.depth) :
    Leads source (Cursor.unnested reading) stage result last.left :=
  h.concluded (fun _ => .unnests) hdepth

end

section

variable {stage : Stage} {s : List Char}

theorem leads_cut {mid rest : List Char} (h : mid ++ rest <:+ source.toList) :
    Leads source (cut source (offsetBefore source (mid ++ rest)) (offsetBefore source rest)) stage
      (.ok mid) stage := by
  have hrest : rest <:+ mid ++ rest := List.suffix_append mid rest
  have hallowed : Allowed source stage
      (.cuts (offsetBefore source (mid ++ rest)) (offsetBefore source rest)) :=
    ⟨offsetBefore_le h hrest, isBoundary_offsetBefore h, isBoundary_offsetBefore (hrest.trans h)⟩
  refine (leads_act hallowed).bind ?_
  rw [cut?_offsetBefore h]
  exact leads_pure mid

theorem offsetBefore_toList : offsetBefore source source.toList = 0 := by
  rw [offsetBefore, utf8Len_toList, Nat.sub_self]

theorem leads_rest (h : s <:+ source.toList) :
    Leads source (rest source) (stage.before source s) (.ok s) (stage.before source s) := by
  refine leads_here.bind ?_
  have hcut : Leads source (cut source (offsetBefore source (s ++ [])) source.utf8ByteSize)
      (stage.before source s) (.ok s) (stage.before source s) :=
    leads_cut (by rwa [List.append_nil])
  rwa [List.append_nil] at hcut

theorem leads_peek (h : s <:+ source.toList) :
    Leads source (peek source) (stage.before source s) (.ok s.head?) (stage.before source s) :=
  (leads_rest h).bind (leads_pure _)

theorem leads_peekSecond (h : s <:+ source.toList) :
    Leads source (peekSecond source) (stage.before source s) (.ok s.tail.head?)
      (stage.before source s) :=
  (leads_rest h).bind (leads_pure _)

theorem leads_position (h : s <:+ source.toList) :
    Leads source (position source (offsetBefore source s)) stage
      (.ok (Position.before source.toList s)) stage := by
  obtain ⟨front, hfront⟩ := h
  have hcut := @leads_cut source stage front s ⟨[], hfront⟩
  have hbefore : Position.before source.toList s = Position.after front := by
    rw [Position.before, ← hfront, List.length_append, Nat.add_sub_cancel, List.take_left]
  rw [hfront, offsetBefore_toList] at hcut
  rw [hbefore]
  exact hcut.bind (leads_pure _)

end

section

variable {stage : Stage} {c : Char} {s rest : List Char} {fuel : Nat}

theorem leads_advance {mid : List Char} (h : mid ++ rest <:+ source.toList) (hmid : mid ≠ []) :
    Leads source (advance (utf8Len mid)) (stage.before source (mid ++ rest)) (.ok ())
      (stage.before source rest) := by
  have hoffset := offsetBefore_append h
  have hlength : utf8Len mid ≠ 0 := fun hzero => hmid (String.utf8Len_eq_zero.mp hzero)
  have hallowed : Allowed source (stage.before source (mid ++ rest))
      (.advances (offsetBefore source (mid ++ rest) + utf8Len mid)) := by
    refine ⟨Nat.lt_add_of_pos_right (Nat.pos_of_ne_zero hlength), ?_⟩
    rw [← hoffset]
    exact isBoundary_offsetBefore ((List.suffix_append mid rest).trans h)
  have hnext : (stage.before source (mid ++ rest)).next
      (.advances (offsetBefore source (mid ++ rest) + utf8Len mid)) =
        stage.before source rest := by
    rw [← hoffset]
    rfl
  rw [← hnext]
  exact leads_here.bind (leads_act hallowed)

theorem leads_advance_char (h : c :: rest <:+ source.toList) :
    Leads source (advance c.utf8Size) (stage.before source (c :: rest)) (.ok ())
      (stage.before source rest) := by
  have hlength : utf8Len [c] = c.utf8Size := by
    rw [String.utf8Len_cons, String.utf8Len_nil, Nat.zero_add]
  rw [← hlength]
  exact leads_advance h (List.cons_ne_nil c [])

theorem leads_bump (h : c :: rest <:+ source.toList) :
    Leads source (bump source) (stage.before source (c :: rest)) (.ok (some c))
      (stage.before source rest) :=
  (leads_peek h).bind ((leads_advance_char h).bind (leads_pure _))

theorem leads_bump_nil :
    Leads source (bump source) (stage.before source []) (.ok none) (stage.before source []) :=
  (leads_peek List.nil_suffix).bind (leads_pure _)

theorem leads_eat (h : c :: rest <:+ source.toList) :
    Leads source (eat source c) (stage.before source (c :: rest)) (.ok true)
      (stage.before source rest) := by
  refine (leads_peek h).bind ?_
  rw [if_pos (List.head?_cons)]
  exact (leads_advance_char h).bind (leads_pure _)

theorem leads_eat_other (h : s <:+ source.toList) (hc : s.head? ≠ some c) :
    Leads source (eat source c) (stage.before source s) (.ok false) (stage.before source s) := by
  refine (leads_peek h).bind ?_
  rw [if_neg hc]
  exact leads_pure _

theorem leads_bumpWhile (p : Char → Bool) (h : s <:+ source.toList)
    (hfuel : Enough source s 1 fuel) :
    Leads source (bumpWhile source p fuel) (stage.before source s) (.ok ())
      (stage.before source (s.dropWhile p)) := by
  induction s generalizing fuel with
  | nil =>
    obtain ⟨left, rfl, -⟩ := hfuel.exists_succ
    rw [bumpWhile]
    exact (leads_peek h).bind (leads_pure _)
  | cons c s ih =>
    obtain ⟨left, rfl, hleft⟩ := hfuel.exists_succ
    obtain ⟨hs, hpassed⟩ := passed_cons h
    rw [bumpWhile]
    refine (leads_peek h).bind ?_
    dsimp only [List.head?_cons]
    by_cases hc : p c = true
    · rw [if_pos hc, List.dropWhile_cons_of_pos hc]
      exact (leads_bump h).bind (ih hs (hleft.past hpassed (by decide)))
    · rw [if_neg hc, List.dropWhile_cons_of_neg hc]
      exact leads_pure _

theorem leads_skip (h : s <:+ source.toList) (hfuel : Enough source s 1 fuel) :
    Leads source (skip source fuel) (stage.before source s) (.ok ())
      (stage.before source (skipBlanks s)) :=
  leads_bumpWhile Unicode.isWhiteSpace h hfuel

theorem leads_name (h : s <:+ source.toList) (hfuel : Enough source s 1 fuel) :
    Leads source (name source fuel) (stage.before source s) (.ok (takeIdent s).1)
      (stage.before source (takeIdent s).2) := by
  refine Leads.recorded ?_ ⟨rfl, fun _ hadvances => hadvances.elim⟩
  refine leads_here.bind ((leads_bumpWhile isIdentContinue h hfuel).bind (leads_here.bind ?_))
  have hsplit : s.takeWhile isIdentContinue ++ s.dropWhile isIdentContinue = s :=
    List.takeWhile_append_dropWhile
  have hcut := @leads_cut source (stage.before source (takeIdent s).2) _ _ (hsplit ▸ h)
  rw [hsplit] at hcut
  exact hcut.bind (leads_pure _)

def located (source : String) (error : MarkupError (List Char)) : Halt :=
  .error (error.map (Position.before source.toList))

variable {α : Type} {opened : List Char}

theorem leads_unclosedTag (hopened : opened <:+ source.toList) (h : s <:+ source.toList) :
    Leads source (unclosedTag source (offsetBefore source opened) : Reading α)
      (stage.before source s) (.error (located source (unclosed opened s)))
      (stage.before source s) :=
  (leads_position hopened).bind ((leads_peek h).bind (leads_here.bind
    ((leads_position h).bind (leads_throw _))))

theorem leads_nest (place : Nat) (h : stage.cursor.depth < maxNesting) :
    Leads source (nest source place) (stage.before source s) (.ok ())
      ((stage.next .nests).before source s) := by
  have hallowed : Allowed source (stage.before source s) .nests := h
  refine leads_here.bind ?_
  rw [if_neg (Nat.not_le.mpr hallowed)]
  exact leads_act hallowed

theorem leads_nest_error (hs : s <:+ source.toList) (h : maxNesting ≤ stage.cursor.depth) :
    Leads source (nest source (offsetBefore source s)) (stage.before source s)
      (.error (located source (.nestingTooDeep maxNesting s))) (stage.before source s) := by
  have hfull : maxNesting ≤ (stage.before source s).cursor.depth := h
  refine leads_here.bind ?_
  rw [if_pos hfull]
  exact (leads_position hs).bind (leads_throw _)

variable {quote : Char} {text full : List Char}

/-- The string that is returned reaches from where its content starts to its closing quote. -/
theorem leads_closeString (start : Nat) (hfull : full ++ quote :: rest <:+ source.toList)
    (htext : text ++ quote :: rest <:+ source.toList) (hquote : quote ∉ text)
    (hfuel : Enough source (text ++ quote :: rest) 1 fuel) :
    Leads source
      (closeString source quote start (offsetBefore source (full ++ quote :: rest)) fuel)
      (stage.before source (text ++ quote :: rest)) (.ok (.content (String.ofList full)))
      (stage.before source rest) := by
  have hclosing : quote :: rest <:+ source.toList := (List.suffix_append full _).trans hfull
  induction text generalizing fuel with
  | nil =>
    obtain ⟨left, rfl, -⟩ := hfuel.exists_succ
    rw [closeString]
    refine (leads_bump hclosing).bind ?_
    dsimp only
    rw [if_pos rfl]
    refine leads_here.bind ?_
    have hoffset : offsetBefore source rest - quote.utf8Size =
        offsetBefore source (quote :: rest) := by
      rw [offsetBefore_cons hclosing, Nat.add_sub_cancel]
    dsimp only [Stage.before]
    rw [hoffset]
    exact (leads_cut hfull).bind (leads_pure _)
  | cons c text ih =>
    obtain ⟨left, rfl, hleft⟩ := hfuel.exists_succ
    obtain ⟨htail, hpassed⟩ := passed_cons htext
    obtain ⟨hne, hquote⟩ := List.ne_and_not_mem_of_not_mem_cons hquote
    rw [closeString]
    refine (leads_bump htext).bind ?_
    dsimp only
    rw [if_neg hne.symm]
    exact ih htail hquote (hleft.past hpassed (by decide))

theorem leads_closeString_unterminated {t : List Char} (content : Nat)
    (ht : t <:+ source.toList) (h : s <:+ source.toList) (hquote : quote ∉ s)
    (hfuel : Enough source s 1 fuel) :
    Leads source (closeString source quote (offsetBefore source t) content fuel)
      (stage.before source s) (.error (located source (.unterminatedString t)))
      (stage.before source []) := by
  induction s generalizing fuel with
  | nil =>
    obtain ⟨left, rfl, -⟩ := hfuel.exists_succ
    rw [closeString]
    exact leads_bump_nil.bind ((leads_position ht).bind (leads_throw _))
  | cons c s ih =>
    obtain ⟨left, rfl, hleft⟩ := hfuel.exists_succ
    obtain ⟨hs, hpassed⟩ := passed_cons h
    obtain ⟨hne, hquote⟩ := List.ne_and_not_mem_of_not_mem_cons hquote
    rw [closeString]
    refine (leads_bump h).bind ?_
    dsimp only
    rw [if_neg hne.symm]
    exact ih hs hquote (hleft.past hpassed (by decide))

end

end TemplateEngine.Markup.Cursor
