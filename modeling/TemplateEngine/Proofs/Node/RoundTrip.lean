import TemplateEngine.Proofs.Markup.Valid
import TemplateEngine.Proofs.Node.Lowered

/-! # Trees that are stored and read back

A typed tree comes into the program from a stored tree or from markup. Either way it is valid, and a
valid tree can be stored and read back as it was. -/

namespace TemplateEngine

/-- The ways in which a typed tree comes into the program. -/
inductive Node.Arises (node : Node) : Prop
  | lowered (raw : RawNode) (h : raw.lowerNode = .ok node)
  | parsed (source : String) (h : Markup.parse source = .ok node)

theorem Node.Arises.isValid {node : Node} (h : node.Arises) : node.IsValid := by
  cases h with
  | lowered raw h => exact (RawNode.lowerNode_sound raw h).2.1
  | parsed source h =>
    obtain ⟨nodes, rfl, hplain⟩ := Markup.exists_isPlain_of_parse h
    exact Markup.allValid_of_isPlain hplain

namespace RawNode

/-- A tree that has come into the program is stored as a well-formed tree, which is lowered to the
tree that was stored. -/
theorem lowerNode_ofNode_of_arises {node : Node} (h : node.Arises) :
    lowerNode (ofNode node) = .ok node ∧ (ofNode node).IsNode ∧ node.IsValid := by
  have hvalid := h.isValid
  have hback := lowerNode_ofNode node hvalid
  exact ⟨hback, (lowerNode_sound (ofNode node) hback).1, hvalid⟩

def callSource : String :=
  "\x7b\x7b f(\"\", a.b.c, sep = x) | g \x7d\x7d"

def callTree : Node :=
  .source [.display (.filter "g" (.function "f" [.value none (.content ""),
    .value none (.selector (.var "a") (.selector (.var "b") (.var "c"))),
    .value (some "sep") (.var "x")]))]

/-- A loop over a chain of tests, with texts and children that are not used. -/
def chainRaw : RawNode :=
  ⟨.statement, "unused", [⟨.loop, "item", [leaf .var "items",
    ⟨.statement, "", [⟨.cond, "", [⟨.condExpression, "", [leaf .var "a"]⟩,
      ⟨.condConsequence, "", [⟨.content, "A", [leaf .source ""]⟩]⟩,
      ⟨.cond, "", [⟨.condExpression, "", [⟨.function, "f", [leaf .argument "",
          leaf .parameter "p", ⟨.argument, "", [leaf .content ""]⟩]⟩]⟩,
        ⟨.condConsequence, "", []⟩,
        ⟨.condAlternative, "", [leaf .inclusion "other"]⟩]⟩]⟩]⟩]⟩]⟩

def chainTree : Node :=
  .statement (.loop "item" (.var "items") [.statement (.cond (.mk (.var "a") [.content "A"]
    (.elseIf (.mk (.function "f" [.literal none "", .value (some "p") (.content "")]) []
      (.otherwise [.inclusion "other"])))))])

/-- The call is read from markup and the loop from a stored tree, and both are read back. -/
theorem lowerNode_ofNode_callTree_and_chainTree :
    Markup.parse callSource = .ok callTree ∧ chainRaw.lowerNode = .ok chainTree ∧
      lowerNode (ofNode callTree) = .ok callTree ∧
      lowerNode (ofNode chainTree) = .ok chainTree := by
  have hcall : Markup.parse callSource = .ok callTree := rfl
  have hchain : chainRaw.lowerNode = .ok chainTree := rfl
  exact ⟨hcall, hchain, (lowerNode_ofNode_of_arises (.parsed callSource hcall)).1,
    (lowerNode_ofNode_of_arises (.lowered chainRaw hchain)).1⟩

end RawNode

end TemplateEngine
