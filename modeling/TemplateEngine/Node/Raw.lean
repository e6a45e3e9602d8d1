import TemplateEngine.Node.Kind

/-! # Stored trees

A tree as it is stored: every node has a tag, a text and children, whatever its kind needs. -/

namespace TemplateEngine

structure RawNode where
  kind : NodeKind
  value : String
  children : List RawNode

namespace RawNode

/-- The children in a list that `items?` reads. Null stands for no children. -/
def childrenOf? (items? : List Json → Option (List RawNode)) : Json → Option (List RawNode)
  | .null => some []
  | .array items => items? items
  | _ => none

/-- The node of a record, where its kind nests at most `limit` deep and `items?` reads its children.
Without text the text is empty, and without children there are none. -/
def ofRecord? (limit : Nat) (items? : List Json → Option (List RawNode)) (json : Json) :
    Option RawNode := do
  let [kind, value, children] ← json.record? ["Type", "Value", "Children"] | none
  let kind ← NodeKind.ofJson? limit (← kind)
  let value ← value.elim (some "") Json.string?
  let children ← children.elim (some []) (childrenOf? items?)
  some ⟨kind, value, children⟩

/-- The node that a document holds, where arrays and objects nest at most `limit` deep. -/
def ofJson? : (limit : Nat) → Json → Option RawNode
  | 0, _ => none
  | 1, json => ofRecord? 0 (fun _ => none) json
  | limit + 2, json => ofRecord? (limit + 1) (fun items => items.mapM (ofJson? limit)) json

/-- A node is stored with all its fields. -/
def toJson : RawNode → Json
  | ⟨kind, value, children⟩ =>
    .object [(some "Type", kind.toJson), (some "Value", .string (some value)),
      (some "Children", .array (toJsons children))]
where
  toJsons : List RawNode → List Json
    | [] => []
    | child :: children => toJson child :: toJsons children

end RawNode

end TemplateEngine
