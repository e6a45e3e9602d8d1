import TemplateEngine.Proofs.Markup.Places
import TemplateEngine.Proofs.Markup.Positions

/-! # Concatenated markup

Markup that is accepted can be put before any other, unless a tag would start where they meet. The
nodes are those of both, and so are the errors of the second, at positions that are moved. -/

namespace TemplateEngine.Markup

/-- A node before others. Text that comes next is joined with it if it is text as well. -/
def joinText : Node → List Node → List Node
  | .content text, .content more :: nodes => .content (text ++ more) :: nodes
  | node, nodes => node :: nodes

/-- Nodes one after the other, with the text on both sides of the border joined. -/
def joined : List Node → List Node → List Node
  | [], others => others
  | [node], others => joinText node others
  | node :: next :: nodes, others => node :: joined (next :: nodes) others

def IsTag (node : Node) : Prop :=
  ∀ text, node ≠ .content text

theorem TagText.isTag {tag : List Char} {node : Node} (h : TagText tag node) : IsTag node := by
  cases h <;> exact nofun

theorem joinText_of_isTag {node : Node} (h : IsTag node) (others : List Node) :
    joinText node others = node :: others := by
  unfold joinText
  split
  · exact absurd rfl (h _)
  · rfl

theorem joinText_tag {node next : Node} (h : IsTag next) (others : List Node) :
    joinText node (next :: others) = node :: next :: others := by
  unfold joinText
  split
  · next heq => exact absurd (List.cons.inj heq).1 (h _)
  · rfl

theorem joined_tag {node : Node} (h : IsTag node) (nodes others : List Node) :
    joined (node :: nodes) others = node :: joined nodes others := by
  cases nodes with
  | nil => exact joinText_of_isTag h others
  | cons next nodes => rfl

theorem joined_contentOf_tag (raw : List Char) {node : Node} (h : IsTag node)
    (nodes others : List Node) :
    joined (contentOf raw ++ node :: nodes) others =
      contentOf raw ++ node :: joined nodes others := by
  unfold contentOf
  split
  · exact joined_tag h nodes others
  · exact congrArg _ (joined_tag h nodes others)

theorem joined_contentOf (raw more : List Char) (others : List Node)
    (h : ∀ node ∈ others.head?, IsTag node) :
    joined (contentOf raw) (contentOf more ++ others) = contentOf (raw ++ more) ++ others := by
  by_cases hraw : raw = []
  · subst hraw
    rfl
  · have hboth : raw ++ more ≠ [] := fun hnil => hraw (List.append_eq_nil_iff.mp hnil).1
    rw [contentOf, contentOf, contentOf, if_neg hraw, if_neg hboth]
    by_cases hmore : more = []
    · subst hmore
      rw [if_pos rfl, List.append_nil, List.nil_append]
      cases others with
      | nil => rfl
      | cons node others => exact joinText_tag (h node rfl) others
    · rw [if_neg hmore, String.ofList_append]
      rfl

/-- A tag starts with the last character of the first text and the first of the second. -/
def MeetInTag (s t : List Char) : Prop :=
  s.getLast? = some '\x7b' ∧ ∃ c ∈ t.head?, c = '\x7b' ∨ c = '%' ∨ c = '#'

/-- Two characters tell whether a tag starts. -/
theorem startsTag_append {s : List Char} (h : 2 ≤ s.length) (t : List Char) :
    StartsTag (s ++ t) ↔ StartsTag s := by
  obtain ⟨c, rest, rfl⟩ : ∃ c rest, s = c :: rest := by
    cases s with
    | nil => simp at h
    | cons c rest => exact ⟨c, rest, rfl⟩
  cases rest with
  | nil => simp at h
  | cons d rest => rw [List.cons_append, startsTag_iff, startsTag_iff, List.cons_append]; rfl

theorem StartsTag.append {s : List Char} (h : StartsTag s) (t : List Char) :
    StartsTag (s ++ t) := by
  obtain ⟨c, rest, rfl, hc⟩ := h
  exact ⟨c, rest ++ t, rfl, hc⟩

theorem RawBefore.append {raw tag : List Char} (h : RawBefore raw tag) (htag : tag ≠ [])
    (t : List Char) : RawBefore raw (tag ++ t) := by
  intro front back heq hback
  have hlength : 2 ≤ (back ++ tag).length := by
    have hpos := List.length_pos_iff.mpr hback
    have hpos' := List.length_pos_iff.mpr htag
    rw [List.length_append]
    omega
  rw [← List.append_assoc, startsTag_append hlength]
  exact h front back heq hback

/-- What starts no tag before a text starts none before a part of it. -/
theorem RawBefore.of_append {raw s t : List Char} (h : RawBefore raw (s ++ t)) :
    RawBefore raw s := by
  intro front back heq hback hstarts
  have hlonger := hstarts.append t
  rw [List.append_assoc] at hlonger
  exact h front back heq hback hlonger

theorem RawBefore.of_not_meetInTag {raw t : List Char} (h : RawBefore raw [])
    (hmeet : ¬MeetInTag raw t) : RawBefore raw t := by
  intro front back heq hback
  have hnot : ¬StartsTag back := by simpa using h front back heq hback
  cases back with
  | nil => exact absurd rfl hback
  | cons c rest =>
    cases rest with
    | nil =>
      rw [List.singleton_append, startsTag_iff]
      rintro ⟨rfl, hnext⟩
      refine hmeet ⟨by simp [heq], ?_⟩
      rcases hnext with hnext | hnext | hnext <;> exact ⟨_, hnext, by simp⟩
    | cons d rest => exact fun hstarts => hnot ((startsTag_append (by simp) t).mp hstarts)

theorem RawBefore.not_meetInTag {raw t : List Char} (h : RawBefore raw t) : ¬MeetInTag raw t := by
  rintro ⟨hlast, c, hc, hopens⟩
  obtain ⟨front, rfl⟩ := List.getLast?_eq_some_iff.mp hlast
  obtain ⟨rest, rfl⟩ := List.head?_eq_some_iff.mp hc
  exact h front ['\x7b'] rfl (by simp) ⟨c, rest, rfl, hopens⟩

theorem takeRaw_append {raw t : List Char} (h : RawBefore raw t) :
    takeRaw (raw ++ t) = (raw ++ (takeRaw t).1, (takeRaw t).2) := by
  induction raw with
  | nil => rfl
  | cons c raw ih =>
    obtain ⟨hhead, htail⟩ := rawBefore_cons.mp h
    rw [startsTag_iff] at hhead
    simp only [List.cons_append, takeRaw, if_neg hhead, ih htail]

/-- More fuel than the text is long makes no difference. -/
theorem scanNodes_fuel {fuel more : Nat} {s : List Char} (hfuel : s.length ≤ fuel)
    (hmore : s.length ≤ more) : scanNodes fuel s = scanNodes more s := by
  induction fuel generalizing s more with
  | zero =>
    obtain rfl : s = [] := List.length_eq_zero_iff.mp (Nat.le_zero.mp hfuel)
    rw [scanNodes_of_nil rfl, scanNodes_of_nil rfl]
  | succ fuel ih =>
    obtain ⟨hcut, -⟩ | ⟨raw, tag, hcut, rfl, -, htag⟩ := takeRaw_cases s
    · rw [scanNodes_of_nil hcut, scanNodes_of_nil hcut]
    · rw [List.length_append] at hfuel hmore
      have hpos := List.length_pos_iff.mpr htag.ne_nil
      obtain ⟨more, rfl⟩ : ∃ inner, more = inner + 1 := ⟨more - 1, by omega⟩
      rw [scanNodes_of_tag hcut htag.ne_nil, scanNodes_of_tag hcut htag.ne_nil]
      cases hscan : scanTag tag tag with
      | error error => rfl
      | ok found =>
        obtain ⟨node, rest⟩ := found
        have hless := scanTag_length htag hscan
        have hrest : scanNodes fuel rest = scanNodes more rest := ih (by omega) (by omega)
        simp only [ok_bind, hrest]

/-- Markup before other markup adds its nodes to those that are read from the other. -/
theorem NodesText.scanNodes_append {s t : List Char} {nodes : List Node} (h : NodesText s nodes)
    (hwithin : DisplaysWithin maxNesting nodes) (hmeet : ¬MeetInTag s t) {fuel more : Nat}
    (hfuel : (s ++ t).length ≤ fuel) (hmore : t.length ≤ more) :
    scanNodes fuel (s ++ t) = (scanNodes more t).map (joined nodes) := by
  induction h generalizing fuel with
  | @raw raw hraw =>
    have hcut := takeRaw_append (hraw.of_not_meetInTag hmeet)
    rw [List.length_append] at hfuel
    obtain ⟨hfirst, -⟩ | ⟨first, tag, hfirst, rfl, -, htag⟩ := takeRaw_cases t
    · have hjoined := joined_contentOf raw t [] nofun
      rw [List.append_nil, List.append_nil] at hjoined
      rw [hfirst] at hcut
      rw [scanNodes_of_nil hcut, scanNodes_of_nil hfirst, Except.map, hjoined]
    · rw [hfirst] at hcut
      rw [List.length_append] at hfuel hmore
      have hpos := List.length_pos_iff.mpr htag.ne_nil
      obtain ⟨fuel, rfl⟩ : ∃ inner, fuel = inner + 1 := ⟨fuel - 1, by omega⟩
      obtain ⟨more, rfl⟩ : ∃ inner, more = inner + 1 := ⟨more - 1, by omega⟩
      rw [scanNodes_of_tag hcut htag.ne_nil, scanNodes_of_tag hfirst htag.ne_nil]
      cases hscan : scanTag tag tag with
      | error error => rfl
      | ok found =>
        obtain ⟨node, rest⟩ := found
        obtain ⟨_, -, hnode, -⟩ := scanTag_sound htag hscan
        have hless := scanTag_length htag hscan
        have hrest : scanNodes fuel rest = scanNodes more rest :=
          scanNodes_fuel (by omega) (by omega)
        simp only [ok_bind, hrest]
        cases scanNodes more rest with
        | error error => rfl
        | ok others =>
          have hnext : ∀ next ∈ (node :: others).head?, IsTag next := by
            intro next hnext
            obtain rfl := Option.mem_some.mp hnext
            exact hnode.isTag
          exact congrArg Except.ok (joined_contentOf raw first (node :: others) hnext).symm
  | @tag raw tag rest node nodes hraw first others ih =>
    obtain ⟨hnode, hnodes⟩ := displaysWithin_tag.mp hwithin
    have hpos := first.length_pos
    have htagged : StartsTag (tag ++ (rest ++ t)) := first.startsTag (rest ++ t)
    have hraw' : RawBefore raw (tag ++ rest ++ t) := hraw.append (first.startsTag rest).ne_nil t
    rw [List.append_assoc] at hraw'
    have hcut := takeRaw_complete hraw' (Or.inr htagged)
    have hscan : scanTag (tag ++ (rest ++ t)) (tag ++ (rest ++ t)) = .ok (node, rest ++ t) :=
      scanTag_complete first hnode
    have hmeet' : ¬MeetInTag rest t := by
      rintro ⟨hlast, hnext⟩
      refine hmeet ⟨?_, hnext⟩
      rw [List.getLast?_append, List.getLast?_append, hlast]
      rfl
    simp only [List.length_append] at hfuel
    obtain ⟨fuel, rfl⟩ : ∃ inner, fuel = inner + 1 := ⟨fuel - 1, by omega⟩
    have hrest : scanNodes fuel (rest ++ t) = (scanNodes more t).map (joined nodes) :=
      ih hnodes hmeet' (by rw [List.length_append]; omega)
    rw [List.append_assoc, List.append_assoc,
      scanNodes_of_tag hcut htagged.ne_nil, hscan]
    simp only [ok_bind, hrest]
    cases scanNodes more t with
    | error error => rfl
    | ok others =>
      exact congrArg Except.ok (joined_contentOf_tag raw first.isTag nodes others).symm

/-- Markup that is accepted stays as it is before other markup, unless a tag starts where they meet:
the nodes of both come one after the other, with text on both sides joined, and an error in the
second is found at the place that is moved by the end of the first. -/
theorem parse_append {first second : String} {nodes : List Node}
    (h : parse first = .ok (.source nodes)) (hmeet : ¬MeetInTag first.toList second.toList) :
    (∀ others, parse second = .ok (.source others) →
        parse (first ++ second) = .ok (.source (joined nodes others))) ∧
      ∀ error, parse second = .error error →
        parse (first ++ second) =
          .error (error.map (Position.after first.toList).moved) := by
  obtain ⟨_, heq, htext, hwithin⟩ := exists_nodesText_of_parse h
  obtain rfl := Node.source.inj heq
  have hboth := htext.scanNodes_append hwithin hmeet (Nat.le_refl _) (Nat.le_refl _)
  unfold parse
  dsimp only
  rw [String.toList_append, hboth]
  cases hsecond : scanNodes second.toList.length second.toList with
  | ok others =>
    refine ⟨fun others' hothers => ?_, fun error herror => nomatch herror⟩
    cases hothers
    rfl
  | error error =>
    refine ⟨fun others hothers => (nomatch hothers), fun error' herror => ?_⟩
    cases herror
    have hplaces : ∀ place ∈ error.places, Position.before (first.toList ++ second.toList) place =
        (Position.after first.toList).moved (Position.before second.toList place) :=
      fun place hmem => Position.before_append (scanNodes_within hsecond place hmem).length_le
    exact congrArg Except.error
      ((MarkupError.map_congr hplaces).trans (MarkupError.map_map _ _ error).symm)

/-- Text is joined behind the second line of a letter, and a tag left open there is found in it. -/
theorem parse_append_letter :
    parse "Dear\n\x7b\x7b name \x7d\x7d, " =
        .ok (.source [.content "Dear\n", .display (.var "name"), .content ", "]) ∧
      parse ("Dear\n\x7b\x7b name \x7d\x7d, " ++ "hi\x7b# x #\x7d") =
        .ok (.source [.content "Dear\n", .display (.var "name"), .content ", hi",
          .comment " x "]) ∧
      parse ("Dear\n\x7b\x7b name \x7d\x7d, " ++ "hi \x7b\x7b x") =
        .error (.unclosedTag ⟨2, 16⟩ none ⟨2, 20⟩) := by
  have hparse : parse "Dear\n\x7b\x7b name \x7d\x7d, " =
      .ok (.source [.content "Dear\n", .display (.var "name"), .content ", "]) := rfl
  have hmeet : ∀ t, ¬MeetInTag "Dear\n\x7b\x7b name \x7d\x7d, ".toList t := by
    rintro t ⟨hlast, -⟩
    exact absurd hlast (by decide)
  have hcomment : parse "hi\x7b# x #\x7d" = .ok (.source [.content "hi", .comment " x "]) := rfl
  have hopen : parse "hi \x7b\x7b x" = .error (.unclosedTag ⟨1, 4⟩ none ⟨1, 8⟩) := rfl
  exact ⟨hparse, (parse_append hparse (hmeet _)).1 _ hcomment,
    (parse_append hparse (hmeet _)).2 _ hopen⟩

/-- Two braces that meet start a tag, which neither text has. -/
example : parse ("\x7b" ++ "\x7b x \x7d\x7d") = .ok (.source [.display (.var "x")]) := rfl

end TemplateEngine.Markup
