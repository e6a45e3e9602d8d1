import TemplateEngine.Proofs.Markup.Parsing
import TemplateEngine.Proofs.Node.Paths

/-! # Pieces of markup

Markup that is accepted is cut into text between tags, comments and display tags. Nothing of it is
lost: the pieces put one after another are the markup again. -/

namespace TemplateEngine.Markup

/-- A run of text between tags, a comment or a display tag. -/
inductive Piece where
  | raw (text : List Char)
  | comment (text : List Char)
  | display (inside : List Char) (expr : Expr)

namespace Piece

def source : Piece → List Char
  | .raw text => text
  | .comment text => '\x7b' :: '#' :: (text ++ ['#', '\x7d'])
  | .display inside _ => '\x7b' :: '\x7b' :: (inside ++ ['\x7d', '\x7d'])

def node : Piece → Node
  | .raw text => .content (String.ofList text)
  | .comment text => .comment (String.ofList text)
  | .display _ expr => .display expr

end Piece

/-- The pieces that markup is cut into. Text reaches up to the first tag after it, and a tag derives
its node. -/
inductive IsCut : List Piece → Prop
  | nil : IsCut []
  | raw {text : List Char} {pieces : List Piece} (hne : text ≠ [])
      (hraw : RawBefore text (pieces.flatMap Piece.source))
      (hnext : ∀ piece ∈ pieces.head?, StartsTag piece.source) (others : IsCut pieces) :
      IsCut (.raw text :: pieces)
  | tag {piece : Piece} {pieces : List Piece} (htag : TagText piece.source piece.node)
      (others : IsCut pieces) : IsCut (piece :: pieces)

/-- The text before a tag as a piece, unless it is empty. -/
def rawPieces (raw : List Char) : List Piece :=
  if raw = [] then [] else [.raw raw]

theorem map_node_rawPieces (raw : List Char) : (rawPieces raw).map Piece.node = contentOf raw := by
  unfold rawPieces contentOf
  split <;> rfl

theorem flatMap_source_rawPieces (raw : List Char) :
    (rawPieces raw).flatMap Piece.source = raw := by
  unfold rawPieces
  split
  · next h => exact h.symm
  · exact List.append_nil raw

theorem IsCut.rawPieces_append {raw : List Char} {pieces : List Piece} (h : IsCut pieces)
    (hraw : RawBefore raw (pieces.flatMap Piece.source))
    (hnext : ∀ piece ∈ pieces.head?, StartsTag piece.source) : IsCut (rawPieces raw ++ pieces) := by
  unfold rawPieces
  split
  · exact h
  · next hne => exact .raw hne hraw hnext h

theorem TagText.exists_piece {tag : List Char} {node : Node} (h : TagText tag node) :
    ∃ piece : Piece, piece.source = tag ∧ piece.node = node := by
  cases h with
  | @comment text hclose => exact ⟨.comment text, rfl, rfl⟩
  | @display before text after expr hbefore chain hafter =>
    exact ⟨.display (before ++ (text ++ after)) expr, by simp [Piece.source], rfl⟩

/-- What derives nodes is cut into pieces of which each gives one of the nodes. -/
theorem NodesText.exists_isCut {text : List Char} {nodes : List Node} (h : NodesText text nodes) :
    ∃ pieces, IsCut pieces ∧ text = pieces.flatMap Piece.source ∧
      nodes = pieces.map Piece.node := by
  induction h with
  | @raw raw hraw =>
    have hcut := IsCut.nil.rawPieces_append hraw nofun
    rw [List.append_nil] at hcut
    exact ⟨rawPieces raw, hcut, (flatMap_source_rawPieces raw).symm, (map_node_rawPieces raw).symm⟩
  | @tag raw tag rest node nodes hraw first others ih =>
    obtain ⟨pieces, hcut, rfl, rfl⟩ := ih
    obtain ⟨piece, rfl, rfl⟩ := first.exists_piece
    have hstarts : StartsTag piece.source := by
      have happend := first.startsTag []
      rwa [List.append_nil] at happend
    have hnext : ∀ other ∈ (piece :: pieces).head?, StartsTag other.source := by
      intro other hother
      obtain rfl := Option.mem_some.mp hother
      exact hstarts
    refine ⟨rawPieces raw ++ piece :: pieces, (IsCut.tag first hcut).rawPieces_append hraw hnext,
      ?_, ?_⟩
    · rw [List.flatMap_append, flatMap_source_rawPieces, List.flatMap_cons]
    · rw [List.map_append, map_node_rawPieces, List.map_cons]

theorem exists_isCut_of_parse {source : String} {tree : Node} (h : parse source = .ok tree) :
    ∃ pieces, IsCut pieces ∧ source.toList = pieces.flatMap Piece.source ∧
      tree = .source (pieces.map Piece.node) := by
  obtain ⟨nodes, rfl, htext, -⟩ := exists_nodesText_of_parse h
  obtain ⟨pieces, hcut, hsource, rfl⟩ := htext.exists_isCut
  exact ⟨pieces, hcut, hsource, rfl⟩

theorem rawBefore_nil_iff {raw : List Char} :
    RawBefore raw [] ↔ ∀ c ∈ ['\x7b', '%', '#'], ¬['\x7b', c] <:+: raw := by
  constructor
  · rintro h c hc ⟨front, back, rfl⟩
    refine h front (['\x7b', c] ++ back) (List.append_assoc _ _ _) (by simp) ?_
    exact ⟨c, back ++ [], by simp, by simpa using hc⟩
  · rintro h front back rfl hback ⟨c, rest, htag, hc⟩
    rw [List.append_nil] at htag
    refine h c (by simpa using hc) ⟨front, rest, ?_⟩
    simp [htag]

theorem parse_of_rawBefore {source : String} (h : RawBefore source.toList []) :
    parse source = .ok (.source ((rawPieces source.toList).map Piece.node)) := by
  rw [map_node_rawPieces]
  exact parse_of_nodesText (.raw h) (displaysWithin_contentOf maxNesting _)

theorem GluedText.isPath {name : String} {text : List Char} {expr : Expr}
    (h : GluedText name text expr) : expr.IsPath := by
  cases h with
  | nothing => exact .field name
  | field _ glued => exact .step name glued.isPath
  | emptyCall _ => exact .call name []
  | call _ _ => exact .call name _

theorem selects_piped {expr : Expr} {names : List String} (h : expr.Selects) :
    (expr.piped names).Selects := by
  induction names generalizing expr with
  | nil => exact h
  | cons name names ih => exact @ih (.filter name expr) h

mutual

theorem PrimaryText.selects {text : List Char} {expr : Expr} :
    PrimaryText text expr → expr.Selects
  | .string _ _ => trivial
  | .name _ glued => glued.selects

theorem GluedText.selects {name : String} {text : List Char} {expr : Expr} :
    GluedText name text expr → expr.Selects
  | .nothing => trivial
  | .field _ glued => ⟨trivial, glued.isPath⟩
  | .emptyCall _ => trivial
  | .call given _ => given.allSelect

theorem ArgumentsText.allSelect {text : List Char} {args : List Argument} :
    ArgumentsText text args → Argument.AllSelect args
  | .last _ given _ => ⟨given.selects, trivial⟩
  | .more _ given _ others => ⟨given.selects, others.allSelect⟩

theorem ArgumentText.selects {text : List Char} {arg : Argument} :
    ArgumentText text arg → arg.Selects
  | .positional chain => chain.selects
  | .named _ _ _ chain => chain.selects

theorem ChainText.selects {text : List Char} {expr : Expr} : ChainText text expr → expr.Selects
  | .piped primary _ => selects_piped primary.selects

end

theorem IsCut.selects {pieces : List Piece} (h : IsCut pieces) {inside : List Char} {expr : Expr}
    (hmem : .display inside expr ∈ pieces) : expr.Selects := by
  induction h with
  | nil => cases hmem
  | raw _ _ _ _ ih => exact ih (by simpa using hmem)
  | @tag piece pieces htag _ ih =>
    rcases List.mem_cons.mp hmem with rfl | hmem
    · generalize (Piece.display inside expr).source = tag at htag
      cases htag with
      | display _ chain _ => exact chain.selects
    · exact ih hmem

end TemplateEngine.Markup
