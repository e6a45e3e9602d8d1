import TemplateEngine.Proofs.Json.Written
import TemplateEngine.Template.Document

/-! # Stored trees as documents

A stored tree nests two levels of a document for each of its own: every node is an object, which
holds the array of its children. -/

namespace TemplateEngine

open Json (IsTextual)

namespace NodeKind

theorem ofTag?_tag (kind : NodeKind) : ofTag? kind.tag = some kind := by
  cases kind <;> decide

theorem ofJson?_toJson (limit : Nat) (kind : NodeKind) : ofJson? limit kind.toJson = some kind :=
  ofTag?_tag kind

end NodeKind

namespace RawNode

mutual

/-- How many nodes lie on the longest path from the root. -/
def height : RawNode → Nat
  | ⟨_, _, children⟩ => heights children + 1

def heights : List RawNode → Nat
  | [] => 0
  | child :: children => max child.height (heights children)

end

mutual

theorem isTextual_toJson : ∀ raw : RawNode, IsTextual raw.toJson
  | ⟨kind, value, children⟩ =>
    .object (by simp) (by
      simp only [List.mem_cons, List.not_mem_nil, or_false, forall_eq_or_imp, forall_eq]
      exact ⟨.string kind.tag, .string value, .array (isTextual_toJsons children)⟩)

theorem isTextual_toJsons : ∀ (children : List RawNode), ∀ item ∈ toJson.toJsons children,
    IsTextual item
  | [], _, h => by cases h
  | child :: children, item, h => by
    rcases List.mem_cons.mp h with rfl | h
    · exact isTextual_toJson child
    · exact isTextual_toJsons children item h

end

theorem ofRecord?_toJson (limit : Nat) (items? : List Json → Option (List RawNode))
    (kind : NodeKind) (value : String) (children : List RawNode) :
    ofRecord? limit items? (toJson ⟨kind, value, children⟩) =
      (items? (toJson.toJsons children)).map (⟨kind, value, ·⟩) := by
  have hrecord : (toJson ⟨kind, value, children⟩).record? ["Type", "Value", "Children"] =
      some [some kind.toJson, some (.string (some value)),
        some (.array (toJson.toJsons children))] := rfl
  rw [ofRecord?, hrecord]
  simp only [NodeKind.ofJson?_toJson, Option.bind_eq_bind, Option.bind_some, Option.elim_some,
    Json.string?, childrenOf?]
  exact Option.map_eq_bind.symm

mutual

/-- A node is read back from its document if the document is not too deep. -/
theorem ofJson?_toJson : ∀ (raw : RawNode) (limit : Nat),
    ofJson? limit raw.toJson = if 2 * raw.height ≤ limit then some raw else none
  | ⟨kind, value, children⟩, 0 => by rw [height, if_neg (by omega)]; rfl
  | ⟨kind, value, children⟩, 1 => by
    rw [height, if_neg (by omega), ofJson?, ofRecord?_toJson]
    rfl
  | ⟨kind, value, children⟩, limit + 2 => by
    have hlimit : 2 * (heights children + 1) ≤ limit + 2 ↔ 2 * heights children ≤ limit := by
      omega
    rw [height, ofJson?, ofRecord?_toJson, ofJson?_toJsons children limit]
    simp only [hlimit]
    split_ifs <;> rfl

theorem ofJson?_toJsons : ∀ (children : List RawNode) (limit : Nat),
    (toJson.toJsons children).mapM (ofJson? limit) =
      if 2 * heights children ≤ limit then some children else none
  | [], limit => by
    rw [heights, if_pos (Nat.zero_le limit)]
    rfl
  | child :: children, limit => by
    have hlimit : 2 * max child.height (heights children) ≤ limit ↔
        2 * child.height ≤ limit ∧ 2 * heights children ≤ limit := by
      omega
    rw [toJson.toJsons, List.mapM_cons, ofJson?_toJson child limit,
      ofJson?_toJsons children limit, heights]
    simp only [hlimit]
    by_cases hchild : 2 * child.height ≤ limit
    · by_cases hchildren : 2 * heights children ≤ limit
      · rw [if_pos hchild, if_pos hchildren, if_pos ⟨hchild, hchildren⟩]
        rfl
      · have hboth : ¬(2 * child.height ≤ limit ∧ 2 * heights children ≤ limit) :=
          fun h => hchildren h.2
        rw [if_pos hchild, if_neg hchildren, if_neg hboth]
        rfl
    · have hboth : ¬(2 * child.height ≤ limit ∧ 2 * heights children ≤ limit) :=
        fun h => hchild h.1
      rw [if_neg hchild, if_neg hboth]
      rfl

end

theorem height_pos (raw : RawNode) : 0 < raw.height := by
  obtain ⟨kind, value, children⟩ := raw
  rw [height]
  exact Nat.succ_pos _

theorem heights_le {bound : Nat} {children : List RawNode}
    (h : ∀ child ∈ children, child.height ≤ bound) : heights children ≤ bound := by
  induction children with
  | nil => exact Nat.zero_le bound
  | cons child children ih =>
    obtain ⟨hchild, hchildren⟩ := List.forall_mem_cons.mp h
    rw [heights]
    exact Nat.max_le.mpr ⟨hchild, ih hchildren⟩

theorem children_of_ofRecord? {limit : Nat} {items? : List Json → Option (List RawNode)}
    {json : Json} {raw : RawNode} (h : ofRecord? limit items? json = some raw) :
    raw.children = [] ∨ ∃ items, items? items = some raw.children := by
  rw [ofRecord?] at h
  obtain ⟨fields, -, h⟩ := Option.bind_eq_some_iff.mp h
  match fields, h with
  | [kind, value, children], h =>
    simp only [Option.bind_eq_bind, Option.bind_eq_some_iff] at h
    obtain ⟨tag, -, kind, -, value, -, given, hchildren, h⟩ := h
    obtain rfl := Option.some.inj h
    cases children with
    | none => exact Or.inl (Option.some.inj hchildren).symm
    | some json =>
      cases json with
      | null => exact Or.inl (Option.some.inj hchildren).symm
      | array items => exact Or.inr ⟨items, hchildren⟩
      | _ => cases hchildren

theorem mem_of_mapM_ofJson? {limit : Nat} {items : List Json} {children : List RawNode}
    (h : items.mapM (ofJson? limit) = some children) {child : RawNode} (hmem : child ∈ children) :
    ∃ item, ofJson? limit item = some child := by
  induction items generalizing children with
  | nil =>
    cases h
    cases hmem
  | cons item items ih =>
    rw [List.mapM_cons] at h
    obtain ⟨first, hfirst, h⟩ := Option.bind_eq_some_iff.mp h
    obtain ⟨others, hothers, h⟩ := Option.bind_eq_some_iff.mp h
    obtain rfl := Option.some.inj h
    rcases List.mem_cons.mp hmem with rfl | hmem
    · exact ⟨item, hfirst⟩
    · exact ih hothers hmem

/-- A tree that is read within a limit is written at most one level deeper. A leaf that is read
without a list of children takes one level and is written with two, as all other nodes take two. -/
theorem height_le_of_ofJson? : ∀ (limit : Nat) {json : Json} {raw : RawNode},
    ofJson? limit json = some raw → 2 * raw.height ≤ limit + 1
  | 0, _, _, h => by cases h
  | 1, json, raw, h => by
    rw [ofJson?] at h
    obtain hnone | ⟨items, hitems⟩ := children_of_ofRecord? h
    · obtain ⟨kind, value, children⟩ := raw
      subst hnone
      rw [height, heights]
    · cases hitems
  | limit + 2, json, raw, h => by
    rw [ofJson?] at h
    have hchildren : 2 * heights raw.children ≤ limit + 1 := by
      obtain hnone | ⟨items, hitems⟩ := children_of_ofRecord? h
      · rw [hnone, heights]
        exact Nat.zero_le _
      · have hbound : heights raw.children ≤ (limit + 1) / 2 := heights_le fun child hmem => by
          obtain ⟨item, hitem⟩ := mem_of_mapM_ofJson? hitems hmem
          have hchild := height_le_of_ofJson? limit hitem
          omega
        omega
    obtain ⟨kind, value, children⟩ := raw
    dsimp only at hchildren
    rw [height]
    omega

end RawNode

namespace Document

theorem isTextual_toJson (document : Document) : IsTextual document.toJson :=
  .object (by simp) (by
    simp only [List.mem_cons, List.not_mem_nil, or_false, forall_eq_or_imp, forall_eq]
    exact ⟨.string document.name, .string document.version, document.root.isTextual_toJson⟩)

theorem ofJson?_toJson (document : Document) (limit : Nat) :
    ofJson? limit document.toJson =
      if 2 * document.root.height + 1 ≤ limit then some document else none := by
  obtain ⟨name, version, root⟩ := document
  have hrecord : (toJson ⟨name, version, root⟩).record? ["name", "version", "root_node"] =
      some [some (.string (some name)), some (.string (some version)), some root.toJson] := rfl
  have hpos := root.height_pos
  have hlimit : 2 * root.height ≤ limit - 1 ↔ 2 * root.height + 1 ≤ limit := by omega
  rw [ofJson?, hrecord]
  simp only [Option.bind_eq_bind, Option.bind_some, Option.elim_some, Json.string?,
    RawNode.ofJson?_toJson, hlimit]
  split_ifs <;> rfl

/-- A document is read back from any text of it if its tree has at most 63 nodes on a path. -/
theorem read?_of_read? {document : Document} {text : String}
    (h : Json.read? text = some document.toJson) :
    read? text = if document.root.height ≤ 63 then some document else none := by
  have hlimit : 2 * document.root.height + 1 ≤ Json.nestingLimit ↔ document.root.height ≤ 63 := by
    rw [Json.nestingLimit]
    omega
  rw [read?, h]
  simp only [Option.bind_eq_bind, Option.bind_some, ofJson?_toJson, hlimit]

/-- Every document that is read could be written with all its fields and be read again. -/
theorem height_le_of_read? {document : Document} {text : String} (h : read? text = some document) :
    document.root.height ≤ 63 := by
  rw [read?] at h
  obtain ⟨json, -, h⟩ := Option.bind_eq_some_iff.mp h
  rw [ofJson?] at h
  obtain ⟨fields, -, h⟩ := Option.bind_eq_some_iff.mp h
  match fields, h with
  | [name, version, root], h =>
    simp only [Option.bind_eq_bind, Option.bind_eq_some_iff] at h
    obtain ⟨_, -, _, -, _, -, _, -, tree, htree, h⟩ := h
    obtain rfl := Option.some.inj h
    have hheight := RawNode.height_le_of_ofJson? _ htree
    rw [Json.nestingLimit] at hheight
    dsimp only at hheight ⊢
    omega

theorem read?_toPretty (document : Document) :
    read? (document.toJson.toPretty ++ "\n") =
      if document.root.height ≤ 63 then some document else none :=
  read?_of_read? (Json.read?_toPretty document.isTextual_toJson)

end Document

end TemplateEngine
