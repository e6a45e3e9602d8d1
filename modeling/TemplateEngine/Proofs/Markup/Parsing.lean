import TemplateEngine.Proofs.Markup.Completeness
import TemplateEngine.Proofs.Markup.Soundness

/-! # Markup is read as its grammar says

A template in markup is accepted if and only if it derives a tree whose display tags nest no deeper
than the limit, and it is read as that tree. -/

namespace TemplateEngine.Markup

/-- The first opening brace that starts a tag decides. -/
theorem startsTag_iff {c : Char} {rest : List Char} :
    StartsTag (c :: rest) ↔ c = '\x7b' ∧
      (rest.head? = some '\x7b' ∨ rest.head? = some '%' ∨ rest.head? = some '#') := by
  constructor
  · rintro ⟨d, tail, heq, hd⟩
    simp only [List.cons.injEq] at heq
    obtain ⟨rfl, rfl⟩ := heq
    simpa using hd
  · rintro ⟨rfl, hd⟩
    cases rest with
    | nil => simp at hd
    | cons d tail => exact ⟨d, tail, rfl, by simpa using hd⟩

theorem RawBefore.nil (rest : List Char) : RawBefore [] rest := by
  intro front back heq hback
  exact absurd (List.append_eq_nil_iff.mp heq.symm).2 hback

theorem rawBefore_cons {c : Char} {raw rest : List Char} :
    RawBefore (c :: raw) rest ↔ ¬StartsTag (c :: (raw ++ rest)) ∧ RawBefore raw rest := by
  constructor
  · intro h
    refine ⟨h [] (c :: raw) rfl (by simp), fun front back heq hback => ?_⟩
    exact h (c :: front) back (by simp [heq]) hback
  · rintro ⟨hhead, htail⟩ front back heq hback
    cases front with
    | nil =>
      obtain rfl : back = c :: raw := by simpa using heq.symm
      exact hhead
    | cons d front =>
      simp only [List.cons_append, List.cons.injEq] at heq
      exact htail front back heq.2 hback

theorem takeRaw_sound (s : List Char) :
    s = (takeRaw s).1 ++ (takeRaw s).2 ∧ RawBefore (takeRaw s).1 (takeRaw s).2 ∧
      ((takeRaw s).2 = [] ∨ StartsTag (takeRaw s).2) := by
  induction s with
  | nil => exact ⟨rfl, .nil _, Or.inl rfl⟩
  | cons c rest ih =>
    simp only [takeRaw]
    split_ifs with htag
    · exact ⟨rfl, .nil _, Or.inr (startsTag_iff.mpr htag)⟩
    · obtain ⟨heq, hraw, htags⟩ := ih
      refine ⟨by simp [← heq], rawBefore_cons.mpr ⟨?_, hraw⟩, htags⟩
      rw [← heq]
      exact fun h => htag (startsTag_iff.mp h)

theorem takeRaw_complete {raw rest : List Char} (hraw : RawBefore raw rest)
    (hrest : rest = [] ∨ StartsTag rest) : takeRaw (raw ++ rest) = (raw, rest) := by
  induction raw with
  | nil =>
    rcases hrest with rfl | hrest
    · rfl
    · obtain ⟨c, tail, rfl, hc⟩ := hrest
      rcases hc with rfl | rfl | rfl <;> simp [takeRaw]
  | cons c raw ih =>
    obtain ⟨hhead, htail⟩ := rawBefore_cons.mp hraw
    rw [startsTag_iff] at hhead
    simp only [List.cons_append, takeRaw, if_neg hhead, ih htail]

theorem StartsTag.ne_nil {s : List Char} (h : StartsTag s) : s ≠ [] := by
  obtain ⟨c, rest, rfl, -⟩ := h
  exact List.cons_ne_nil _ _

theorem takeRaw_cases (s : List Char) :
    (takeRaw s = (s, []) ∧ RawBefore s []) ∨
      ∃ raw tag, takeRaw s = (raw, tag) ∧ s = raw ++ tag ∧ RawBefore raw tag ∧ StartsTag tag := by
  obtain ⟨hs, hraw, hstarts⟩ := takeRaw_sound s
  cases hcut : takeRaw s with
  | mk raw tag =>
    rw [hcut] at hs hraw hstarts
    rcases hstarts with htag | htag
    · dsimp only at hs hraw htag
      subst htag
      rw [List.append_nil] at hs
      exact Or.inl ⟨by rw [hs], hs ▸ hraw⟩
    · exact Or.inr ⟨raw, tag, rfl, hs, hraw, htag⟩

theorem infix_cons_iff {c : Char} {text : List Char} :
    ['#', '\x7d'] <:+: c :: text ↔
      (c = '#' ∧ text.head? = some '\x7d') ∨ ['#', '\x7d'] <:+: text := by
  rw [List.infix_cons_iff]
  cases text with
  | nil => simp
  | cons d text => simp [eq_comm]

theorem takeComment?_eq_some_iff {s text rest : List Char} :
    takeComment? s = some (text, rest) ↔
      s = text ++ '#' :: '\x7d' :: rest ∧ ¬['#', '\x7d'] <:+: text := by
  fun_induction takeComment? s generalizing text with
  | case1 => simp
  | case2 tail =>
    constructor
    · intro h
      simp only [Option.some.injEq, Prod.mk.injEq] at h
      obtain ⟨rfl, rfl⟩ := h
      simp
    · rintro ⟨heq, hclose⟩
      rcases text with _ | ⟨c, _ | ⟨d, text⟩⟩
      · simpa using heq
      · simp at heq
      · simp only [List.cons_append, List.cons.injEq] at heq
        obtain ⟨rfl, rfl, rfl⟩ := heq
        exact absurd ⟨[], text, rfl⟩ hclose
  | case3 c tail hnot ih =>
    constructor
    · intro h
      obtain ⟨⟨inner, rest'⟩, hinner, heq⟩ := Option.map_eq_some_iff.mp h
      simp only [Prod.mk.injEq] at heq
      obtain ⟨rfl, rfl⟩ := heq
      obtain ⟨rfl, hclose⟩ := ih.mp hinner
      refine ⟨rfl, fun h => ?_⟩
      rcases infix_cons_iff.mp h with ⟨rfl, hhead⟩ | h
      · cases inner with
        | nil => simp at hhead
        | cons d inner =>
          obtain rfl : d = '\x7d' := by simpa using hhead
          exact hnot _ rfl rfl
      · exact hclose h
    · rintro ⟨heq, hclose⟩
      cases text with
      | nil =>
        simp only [List.nil_append, List.cons.injEq] at heq
        exact absurd heq.2 (by rintro rfl; exact hnot _ heq.1 rfl)
      | cons d text =>
        simp only [List.cons_append, List.cons.injEq] at heq
        obtain ⟨rfl, rfl⟩ := heq
        rw [infix_cons_iff, not_or] at hclose
        rw [ih.mpr ⟨rfl, hclose.2⟩]
        rfl

theorem TagText.startsTag {tag : List Char} {node : Node} (h : TagText tag node)
    (rest : List Char) : StartsTag (tag ++ rest) := by
  cases h with
  | comment hclose => exact ⟨'#', _, rfl, by simp⟩
  | display hbefore chain hafter => exact ⟨'\x7b', _, rfl, by simp⟩

theorem TagText.length_pos {tag : List Char} {node : Node} (h : TagText tag node) :
    0 < tag.length := by
  cases h <;> exact Nat.succ_pos _

theorem scanDisplay_sound {opened s rest : List Char} {node : Node}
    (hs : scanDisplay opened s = .ok (node, rest)) :
    ∃ tag, '\x7b' :: '\x7b' :: s = tag ++ rest ∧ TagText tag node ∧
      DisplaysWithin maxNesting [node] := by
  obtain ⟨⟨expr, rest'⟩, hexpr, hclose⟩ := exists_of_bind_eq_ok hs
  obtain ⟨before, text, after, rfl, hbefore, hchain, hafter, hnesting⟩ :=
    scanExpression_sound _ _ _ hexpr
  obtain ⟨blanks, hblanks, hskip⟩ := exists_blanks rest'
  dsimp only at hclose
  split at hclose
  · next tail heq =>
    cases hclose
    rw [heq] at hskip
    refine ⟨_, ?_, .display hbefore hchain (hafter.append hblanks), ?_⟩
    · rw [hskip]
      simp
    · intro other hmem
      obtain rfl : other = expr := by simpa using hmem
      exact hnesting
  · simp at hclose

theorem scanDisplay_complete {opened before text after rest : List Char} {expr : Expr}
    (hbefore : Blanks before) (hchain : ChainText text expr) (hafter : Blanks after)
    (hnesting : expr.nesting ≤ maxNesting) :
    scanDisplay opened (before ++ (text ++ (after ++ '\x7d' :: '\x7d' :: rest))) =
      .ok (.display expr, rest) := by
  have hclose : Closes ('\x7d' :: '\x7d' :: rest) := ⟨'\x7d', _, rfl, by simp⟩
  have hread : scanExpression opened (before ++ (text ++ (after ++ '\x7d' :: '\x7d' :: rest))) =
      .ok (expr, '\x7d' :: '\x7d' :: rest) :=
    scanExpression_complete _ _ _ _ _ hbefore hchain hafter hnesting hclose
  simp only [scanDisplay, hread, ok_bind, hclose.skipBlanks_eq]
  rfl

theorem scanTag_sound {opened s rest : List Char} {node : Node} (hs : StartsTag s)
    (h : scanTag opened s = .ok (node, rest)) :
    ∃ tag, s = tag ++ rest ∧ TagText tag node ∧ DisplaysWithin maxNesting [node] := by
  rcases hs with ⟨c, tail, rfl, rfl | rfl | rfl⟩
  · exact scanDisplay_sound h
  · simp [scanTag] at h
  · simp only [scanTag] at h
    split at h
    · next text rest' heq =>
      simp only [Except.ok.injEq, Prod.mk.injEq] at h
      obtain ⟨rfl, rfl⟩ := h
      obtain ⟨rfl, hclose⟩ := takeComment?_eq_some_iff.mp heq
      exact ⟨_, by simp, .comment hclose, by simp [DisplaysWithin]⟩
    · simp at h

theorem scanTag_complete {opened tag rest : List Char} {node : Node} (h : TagText tag node)
    (hwithin : DisplaysWithin maxNesting [node]) :
    scanTag opened (tag ++ rest) = .ok (node, rest) := by
  cases h with
  | @comment text hclose =>
    have htake : takeComment? (text ++ '#' :: '\x7d' :: rest) = some (text, rest) :=
      takeComment?_eq_some_iff.mpr ⟨rfl, hclose⟩
    simp only [List.cons_append, List.append_assoc, List.nil_append, scanTag, htake]
  | @display before text after expr hbefore chain hafter =>
    have hread : scanDisplay opened (before ++ (text ++ (after ++ '\x7d' :: '\x7d' :: rest))) =
        .ok (.display expr, rest) :=
      scanDisplay_complete hbefore chain hafter (hwithin _ (by simp))
    simpa only [List.cons_append, List.append_assoc, List.nil_append, scanTag] using hread

theorem scanTag_length {s rest : List Char} {node : Node} (hs : StartsTag s)
    (h : scanTag s s = .ok (node, rest)) : rest.length < s.length := by
  obtain ⟨tag, hsplit, htag, -⟩ := scanTag_sound hs h
  have hpos := htag.length_pos
  rw [hsplit, List.length_append]
  omega

theorem scanNodes_of_nil {s raw : List Char} (h : takeRaw s = (raw, [])) (fuel : Nat) :
    scanNodes fuel s = .ok (contentOf raw) := by
  unfold scanNodes
  rw [h]

theorem scanNodes_zero (s : List Char) : scanNodes 0 s = .ok (contentOf (takeRaw s).1) := by
  unfold scanNodes
  generalize takeRaw s = cut
  obtain ⟨raw, tag⟩ := cut
  cases tag <;> rfl

theorem scanNodes_of_tag {s raw tag : List Char} (h : takeRaw s = (raw, tag)) (htag : tag ≠ [])
    (fuel : Nat) :
    scanNodes (fuel + 1) s = do
      let (node, rest) ← scanTag tag tag
      let nodes ← scanNodes fuel rest
      return contentOf raw ++ node :: nodes := by
  obtain ⟨c, tail, rfl⟩ := List.exists_cons_of_ne_nil htag
  conv_lhs => unfold scanNodes
  rw [h]

theorem displaysWithin_append {limit : Nat} {nodes others : List Node} :
    DisplaysWithin limit (nodes ++ others) ↔
      DisplaysWithin limit nodes ∧ DisplaysWithin limit others := by
  simp only [DisplaysWithin, List.mem_append, or_imp, forall_and]

theorem displaysWithin_contentOf (limit : Nat) (raw : List Char) :
    DisplaysWithin limit (contentOf raw) := by
  intro expr hmem
  simp only [contentOf] at hmem
  split_ifs at hmem <;> simp at hmem

theorem displaysWithin_tag {limit : Nat} {raw : List Char} {node : Node} {nodes : List Node} :
    DisplaysWithin limit (contentOf raw ++ node :: nodes) ↔
      DisplaysWithin limit [node] ∧ DisplaysWithin limit nodes := by
  rw [displaysWithin_append, ← List.singleton_append, displaysWithin_append]
  exact and_iff_right (displaysWithin_contentOf limit raw)

theorem scanNodes_sound {fuel : Nat} {s : List Char} {nodes : List Node} (hfuel : s.length ≤ fuel)
    (h : scanNodes fuel s = .ok nodes) : NodesText s nodes ∧ DisplaysWithin maxNesting nodes := by
  induction fuel generalizing s nodes with
  | zero =>
    obtain rfl : s = [] := List.length_eq_zero_iff.mp (by omega)
    rw [scanNodes_of_nil rfl] at h
    obtain rfl := Except.ok.inj h
    exact ⟨.raw (.nil _), displaysWithin_contentOf _ _⟩
  | succ fuel ih =>
    obtain ⟨hcut, hraw⟩ | ⟨raw, tags, hcut, rfl, hraw, htags⟩ := takeRaw_cases s
    · rw [scanNodes_of_nil hcut] at h
      obtain rfl := Except.ok.inj h
      exact ⟨.raw hraw, displaysWithin_contentOf _ _⟩
    · rw [scanNodes_of_tag hcut htags.ne_nil] at h
      obtain ⟨⟨node, rest⟩, hnode, h⟩ := exists_of_bind_eq_ok h
      obtain ⟨others, hothers, h⟩ := exists_of_bind_eq_ok h
      cases h
      obtain ⟨tag, rfl, htext, hdisplay⟩ := scanTag_sound htags hnode
      have hrest : rest.length ≤ fuel := by
        have hpos := htext.length_pos
        simp only [List.length_append] at hfuel
        omega
      obtain ⟨hderives, hwithin⟩ := ih hrest hothers
      exact ⟨.tag hraw htext hderives, displaysWithin_tag.mpr ⟨hdisplay, hwithin⟩⟩

theorem scanNodes_complete {s : List Char} {nodes : List Node} (h : NodesText s nodes)
    (hwithin : DisplaysWithin maxNesting nodes) (fuel : Nat) (hfuel : s.length ≤ fuel) :
    scanNodes fuel s = .ok nodes := by
  induction h generalizing fuel with
  | @raw raw hraw =>
    have htake := takeRaw_complete hraw (Or.inl rfl)
    rw [List.append_nil] at htake
    exact scanNodes_of_nil htake fuel
  | @tag raw tag rest node nodes hraw first others ih =>
    obtain ⟨hnode, hnodes⟩ := displaysWithin_tag.mp hwithin
    have htake := takeRaw_complete hraw (Or.inr (first.startsTag rest))
    have htag : scanTag (tag ++ rest) (tag ++ rest) = .ok (node, rest) :=
      scanTag_complete first hnode
    have hpos := first.length_pos
    have hne := (first.startsTag rest).ne_nil
    simp only [List.length_append] at hfuel
    obtain ⟨fuel, rfl⟩ : ∃ inner, fuel = inner + 1 := ⟨fuel - 1, by omega⟩
    have hothers : scanNodes fuel rest = .ok nodes := ih hnodes fuel (by omega)
    rw [scanNodes_of_tag htake hne, htag]
    simp only [ok_bind, hothers]
    rfl

theorem exists_nodesText_of_parse {source : String} {tree : Node} (h : parse source = .ok tree) :
    ∃ nodes, tree = .source nodes ∧ NodesText source.toList nodes ∧
      DisplaysWithin maxNesting nodes := by
  simp only [parse] at h
  split at h
  · next nodes hnodes =>
    simp only [Except.ok.injEq] at h
    exact ⟨nodes, h.symm, scanNodes_sound le_rfl hnodes⟩
  · simp at h

theorem parse_of_nodesText {source : String} {nodes : List Node}
    (h : NodesText source.toList nodes) (hwithin : DisplaysWithin maxNesting nodes) :
    parse source = .ok (.source nodes) := by
  simp only [parse, scanNodes_complete h hwithin _ le_rfl]

/-- A single display tag is read as the expression that its text derives. -/
theorem parse_display {before text after : List Char} {expr : Expr} (hbefore : Blanks before)
    (hchain : ChainText text expr) (hafter : Blanks after) (hnesting : expr.nesting ≤ maxNesting) :
    parse (String.ofList ('\x7b' :: '\x7b' :: (before ++ (text ++ (after ++ ['\x7d', '\x7d']))))) =
      .ok (.source [.display expr]) := by
  have hnodes := NodesText.tag (.nil _) (.display hbefore hchain hafter) (.raw (.nil []))
  rw [List.append_nil, List.nil_append] at hnodes
  refine parse_of_nodesText (by rwa [String.toList_ofList]) fun other hother => ?_
  obtain rfl : other = expr := by simpa [contentOf] using hother
  exact hnesting

/-- A template in markup is read as a tree exactly if it derives that tree by the grammar and no
display tag nests deeper than the limit. -/
theorem parse_eq_ok_iff (source : String) (tree : Node) :
    parse source = .ok tree ↔
      ∃ nodes, tree = .source nodes ∧ NodesText source.toList nodes ∧
        DisplaysWithin maxNesting nodes := by
  constructor
  · exact exists_nodesText_of_parse
  · rintro ⟨nodes, rfl, htext, hwithin⟩
    exact parse_of_nodesText htext hwithin

/-- Blanks may stand around pipes but not before what is glued to a name. -/
example : parse "{{ a.0 | f }}" =
    .ok (.source [.display (.filter "f" (.selector (.var "a") (.var "0")))]) := rfl

end TemplateEngine.Markup
