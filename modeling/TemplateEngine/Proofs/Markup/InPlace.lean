import TemplateEngine.Proofs.Markup.Answers

/-! # Markup read in place

A source read in place comes to the tree or to the error that parsing it gives, by acts that are
allowed one by one. -/

namespace TemplateEngine.Markup.Cursor

open String (utf8Len)

variable {source : String}

section

variable {opened s : List Char} {stage : Stage} {fuel : Nat}

theorem answers_display (hopened : opened <:+ source.toList) (h : s <:+ source.toList)
    (hdepth : stage.cursor.depth = 0) (hclear : (stage.before source s).Clear)
    (hfuel : Enough source s 2 fuel) :
    Answers source (display source (offsetBefore source opened) fuel) (stage.before source s)
      (offsetBefore source s + 1) (scanDisplay opened s) := by
  refine Answers.recorded ?_ fun _ => Nat.lt_succ_self _
  have hlevels : stage.cursor.depth + maxNesting = maxNesting := by rw [hdepth, Nat.zero_add]
  refine answers_chain (answers_glued hopened maxNesting) hopened h hlevels hclear.ready hfuel
    fun expr rest last hrest hlt hlast hclear' => ?_
  obtain ⟨ht, hle⟩ := passed_blanks hrest
  refine .after (leads_skip hrest (hfuel.past hlt (by decide))) rfl (.after (leads_rest ht) rfl ?_)
  dsimp only
  generalize skipBlanks rest = t at *
  split_ifs with hstarts
  · obtain ⟨tail, rfl⟩ := List.isPrefixOf_iff_prefix.mp hstarts
    have htail : tail <:+ ['\x7d', '\x7d'] ++ tail := List.suffix_append _ tail
    have hpast := hle.trans (offsetBefore_le ht htail)
    exact .after (leads_advance ht (List.cons_ne_nil _ _)) rfl
      (.ok (leads_pure _) (htail.trans ht) (hlt.trans_le hpast) rfl (hclear'.later hpast))
  · split
    · exact absurd rfl hstarts
    · exact .error (leads_unclosedTag hopened ht) rfl

theorem answers_comment (hopened : opened <:+ source.toList) (h : s <:+ source.toList)
    (hclear : (stage.before source s).Clear) :
    Answers source (comment source (offsetBefore source opened)) (stage.before source s)
      (offsetBefore source s + 1)
      (match takeComment? s with
      | some (text, rest) => .ok (.comment (String.ofList text), rest)
      | none => .error (.unterminatedComment opened)) := by
  refine Answers.recorded ?_ fun _ => Nat.lt_succ_self _
  refine .after (leads_rest h) rfl ?_
  cases hcomment : takeComment? s with
  | none => exact .error ((leads_position hopened).bind (leads_throw _)) rfl
  | some comment =>
    obtain ⟨text, rest⟩ := comment
    obtain ⟨rfl, -⟩ := takeComment?_eq_some_iff.mp hcomment
    have hcut := @leads_cut source (stage.before source (text ++ '#' :: '\x7d' :: rest)) _ _ h
    rw [offsetBefore_append h] at hcut
    have hsplit : text ++ '#' :: '\x7d' :: rest = (text ++ ['#', '\x7d']) ++ rest := by simp
    have hlength : utf8Len (text ++ ['#', '\x7d']) = utf8Len text + 2 := String.utf8Len_append _ _
    rw [hsplit] at h hclear hcut ⊢
    have hrest : rest <:+ source.toList := (List.suffix_append _ rest).trans h
    have hpast := offsetBefore_append h
    have hadvance := @leads_advance source stage rest _ h (by simp)
    rw [hlength] at hpast hadvance
    exact .after leads_here rfl (.after hcut rfl (.after hadvance rfl
      (.ok (leads_pure _) hrest (by omega) rfl (hclear.later (by omega)))))

theorem answers_tagged {sign : Char} (h : '\x7b' :: sign :: s <:+ source.toList)
    (hdepth : stage.cursor.depth = 0) (hclear : (stage.before source s).Clear)
    (hfuel : Enough source s 2 fuel) :
    Answers source (tagged source sign (offsetBefore source ('\x7b' :: sign :: s)) fuel)
      (stage.before source s) (offsetBefore source s + 1)
      (scanTag ('\x7b' :: sign :: s) ('\x7b' :: sign :: s)) := by
  have hs : s <:+ source.toList := (List.suffix_append ['\x7b', sign] s).trans h
  unfold tagged
  split_ifs with hdisplay hcomment
  · subst hdisplay
    exact answers_display h hs hdepth hclear hfuel
  · subst hcomment
    exact answers_comment h hs hclear
  · have hscan : scanTag ('\x7b' :: sign :: s) ('\x7b' :: sign :: s) =
        .error (.statementTag ('\x7b' :: sign :: s)) := by
      simp [scanTag, hdisplay, hcomment]
    rw [hscan]
    exact .error ((leads_position h).bind (leads_throw _)) rfl

theorem leads_content {text rest : List Char} (h : text ++ rest <:+ source.toList) :
    Leads source (content source (offsetBefore source (text ++ rest))) (stage.before source rest)
      (.ok (contentOf text)) (stage.before source rest) := by
  refine leads_here.bind ?_
  dsimp only
  split_ifs with hlt
  · exact (leads_cut h).bind (leads_pure _)
  · cases text with
    | nil => exact leads_pure _
    | cons c text => exact absurd (offsetBefore_lt h (List.suffix_append text rest)) hlt

theorem opener?_eq_none {c : Char} {rest : List Char} (h : ¬StartsTag (c :: rest)) :
    opener? c rest.head? = none := by
  rw [startsTag_iff] at h
  unfold opener?
  split_ifs with hc
  · refine Option.filter_eq_none_iff.mpr fun sign hsign => ?_
    rw [hsign] at h
    simpa [hc] using h
  · rfl

theorem opener?_eq_some {sign : Char} (h : sign = '\x7b' ∨ sign = '%' ∨ sign = '#') :
    opener? '\x7b' (some sign) = some sign := by
  simp [opener?, h]

/-- Text before a tag is passed over one character after the other. -/
theorem answers_nodes_raw {raw rest : List Char} {start low : Nat} {children : List Node}
    {outcome : Except (MarkupError (List Char)) (Node × List Char)}
    (hraw : RawBefore raw rest) (h : raw ++ rest <:+ source.toList)
    (hfuel : Enough source (raw ++ rest) 1 fuel)
    (hrest : ∀ left, Enough source rest 1 left →
      Answers source (nodes source start children left) (stage.before source rest) low outcome) :
    Answers source (nodes source start children fuel) (stage.before source (raw ++ rest)) low
      outcome := by
  induction raw generalizing fuel with
  | nil => exact hrest fuel hfuel
  | cons c raw ih =>
    obtain ⟨left, rfl, hleft⟩ := hfuel.exists_succ
    obtain ⟨htag, hraw⟩ := rawBefore_cons.mp hraw
    obtain ⟨htail, hround⟩ := passed_cons h
    rw [nodes]
    refine .after leads_here rfl (.after (leads_peek h) rfl (.after (leads_peekSecond h) rfl ?_))
    rw [List.cons_append, List.tail_cons, opener?_eq_none htag]
    exact .after (leads_bump h) rfl (.after (leads_act hround) rfl
      (ih hraw htail (hleft.past hround (by decide))))

theorem answers_nodes_text {text : List Char} (children : List Node) (hraw : RawBefore text [])
    (h : text <:+ source.toList) (hclear : (stage.before source text).Clear)
    (hfuel : Enough source text 1 fuel) :
    Answers source (nodes source (offsetBefore source text) children fuel)
      (stage.before source text) (offsetBefore source text)
      (.ok (.source (children ++ contentOf text), [])) := by
  have hend := offsetBefore_le h List.nil_suffix
  have htext := List.append_nil text
  rw [← htext] at h hfuel
  have hcontent := @leads_content source stage text [] h
  have hpass := @answers_nodes_raw source stage fuel text [] _ (offsetBefore source text) children
    (.ok (.source (children ++ contentOf text), [])) hraw h hfuel fun left hleft => by
      obtain ⟨left, rfl, -⟩ := hleft.exists_succ
      rw [nodes]
      exact .after leads_here rfl (.after (leads_peek List.nil_suffix) rfl (.after hcontent rfl
        (.ok (leads_pure _) List.nil_suffix hend rfl (hclear.later hend))))
  rwa [htext] at hpass

theorem answers_nodes (count : Nat) (children : List Node) (hcount : s.length ≤ count)
    (h : s <:+ source.toList) (hdepth : stage.cursor.depth = 0)
    (hclear : (stage.before source s).Clear) (hfuel : Enough source s 1 fuel) :
    Answers source (nodes source (offsetBefore source s) children fuel) (stage.before source s)
      (offsetBefore source s) (do
        let nodes ← scanNodes count s
        return (.source (children ++ nodes), [])) := by
  induction count generalizing children s stage fuel with
  | zero =>
    obtain rfl := List.eq_nil_of_length_eq_zero (Nat.le_zero.mp hcount)
    rw [scanNodes_of_nil rfl]
    exact answers_nodes_text children (.nil []) h hclear hfuel
  | succ count ih =>
    obtain ⟨hcut, hraw⟩ | ⟨raw, tag, hcut, rfl, hraw, htag⟩ := takeRaw_cases s
    · rw [scanNodes_of_nil hcut]
      exact answers_nodes_text children hraw h hclear hfuel
    · rw [scanNodes_of_tag hcut htag.ne_nil, bind_assoc]
      refine answers_nodes_raw hraw h hfuel fun fuel hfuel => ?_
      obtain ⟨left, rfl, hleft⟩ := hfuel.exists_succ
      have htagged : tag <:+ raw ++ tag := List.suffix_append raw tag
      have hpassed := offsetBefore_le h htagged
      obtain ⟨sign, inner, rfl, hsign⟩ := htag
      have hopened := htagged.trans h
      have hinner := offsetBefore_lt hopened (List.suffix_cons sign inner)
      have hadvance := @leads_advance source stage inner ['\x7b', sign] hopened
        (List.cons_ne_nil _ _)
      have hsize : utf8Len ['\x7b', sign] = 2 := by
        rcases hsign with rfl | rfl | rfl <;> rfl
      rw [hsize] at hadvance
      rw [nodes]
      refine .after leads_here rfl (.after (leads_peek hopened) rfl
        (.after (leads_peekSecond hopened) rfl ?_))
      dsimp only [List.tail_cons, List.head?_cons]
      rw [opener?_eq_some hsign]
      refine .after (leads_content h) rfl (.after hadvance rfl ?_)
      refine (answers_tagged hopened hdepth (hclear.later (hpassed.trans hinner.le))
        (hleft.past hinner (by decide))).bind fun node rest last hrest hlow hlast hclear' => ?_
      have hround : offsetBefore source ('\x7b' :: sign :: inner) < offsetBefore source rest :=
        hinner.trans hlow
      have hlength := length_lt_of_offsetBefore_lt h hrest (hpassed.trans_lt hround)
      have hothers := ih (children ++ contentOf raw ++ [node]) (by omega) hrest
        (hlast.trans hdepth) hclear' (hleft.past hround (by decide))
      simp only [bind_assoc, pure_bind, List.append_assoc, List.singleton_append] at hothers ⊢
      exact .after (leads_act hround) rfl (.after leads_here rfl
        (hothers.mono (hpassed.trans hround.le)))

end

variable {fuel : Nat}

theorem before_toList : Stage.start.before source source.toList = .start := by
  rw [Stage.before, offsetBefore_toList]
  rfl

theorem leads_nodes_start (h : 4 * source.utf8ByteSize < fuel) :
    ∃ last : Stage, Leads source (nodes source 0 [] fuel) .start
        ((parse source).mapError Halt.error) last ∧ last.cursor.depth = 0 := by
  have hfuel : Enough source source.toList 1 fuel := by
    rw [Enough, offsetBefore_toList]
    exact h
  have hanswers := @answers_nodes source source.toList .start fuel source.toList.length [] le_rfl
    List.suffix_rfl rfl nofun hfuel
  rw [offsetBefore_toList, before_toList] at hanswers
  unfold parse
  dsimp only
  cases hscan : scanNodes source.toList.length source.toList with
  | ok nodes =>
    rw [hscan] at hanswers
    cases hanswers with
    | ok h _ _ hdepth => exact ⟨_, h, hdepth⟩
  | error error =>
    rw [hscan] at hanswers
    cases hanswers with
    | error h hdepth => exact ⟨_, h, hdepth⟩

/-- Every source is read in place to the end, and to the same outcome. Every act on the way is
allowed where it is done: a text is only cut out between two characters, what must advance does, and
a routine ends on the level that it was entered on. The cursor is always between two characters and
on a level that there may be, and no two steps back lead to the same offset. -/
theorem read_disciplined (source : String) (fuel : Nat) (h : 4 * source.utf8ByteSize < fuel) :
    ∃ acts, read source fuel = some ((parse source).mapError Halt.error,
        ⟨(Stage.start.after acts).cursor, acts⟩) ∧
      (Stage.start.after acts).cursor.depth = 0 ∧
      (∀ past act coming, acts = past ++ act :: coming →
        Allowed source (Stage.start.after past) act) ∧
      (∀ past coming, acts = past ++ coming →
        IsBoundary source (Stage.start.after past).cursor.offset ∧
          (Stage.start.after past).cursor.offset ≤ source.utf8ByteSize ∧
          (Stage.start.after past).cursor.depth ≤ maxNesting) ∧
      (retreats acts).Pairwise (· < ·) := by
  obtain ⟨_, ⟨acts, hrun, rfl, hread⟩, hdepth⟩ := leads_nodes_start h
  refine ⟨acts, hread [], hdepth, ?_, ?_, hrun.pairwise_retreats⟩
  · rintro past act coming rfl
    exact hrun.allowed
  · rintro past coming rfl
    have hsound := hrun.of_append.1.sound sound_start
    exact ⟨hsound.boundary, hsound.boundary.le, hsound.depth_le⟩

/-- The name in the call turns out to be an expression, so that the cursor goes back to it. -/
theorem read_disciplined_call :
    4 * "\x7b\x7b f(é) \x7d\x7d".utf8ByteSize < 100 ∧
      ∃ acts, read "\x7b\x7b f(é) \x7d\x7d" 100 =
          some (.ok (.source [.display (.function "f" [.value none (.var "é")])]),
            ⟨(Stage.start.after acts).cursor, acts⟩) ∧ retreats acts = [5] := by
  have hlt : 4 * "\x7b\x7b f(é) \x7d\x7d".utf8ByteSize < 100 := by decide
  obtain ⟨acts, hread, -⟩ := read_disciplined "\x7b\x7b f(é) \x7d\x7d" 100 hlt
  have hretreats : (read "\x7b\x7b f(é) \x7d\x7d" 100).map
      (fun outcome => retreats outcome.2.acts) = some [5] := by decide +kernel
  rw [hread] at hretreats
  exact ⟨hlt, acts, hread, Option.some.inj hretreats⟩

end TemplateEngine.Markup.Cursor
