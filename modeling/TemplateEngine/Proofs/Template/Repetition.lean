import TemplateEngine.Proofs.Template.Blocks
import TemplateEngine.Proofs.Template.Registration

/-! # Blocks directly inside blocks of their own name

Registration refuses a tree in which a block that is gathered has its own name directly inside. The
root is not gathered, so that a root of that sort is taken in. -/

namespace TemplateEngine

/-- No block that is reached from the nodes has a block of its own name directly inside. -/
def NoneRepeats (nodes : List Node) : Prop :=
  ∀ path block, Reached none nodes path block → ¬HasBlock block.name block.content

/-- The root is a block with a block of its own name directly inside. -/
def Node.RootRepeats (root : Node) : Prop :=
  ∃ name content, root = .block name content ∧ HasBlock name content

/-- Neither the root nor a block that is reached has a block of its own name directly inside. -/
def Node.IsUnrepeated (root : Node) : Prop :=
  ¬root.RootRepeats ∧ NoneRepeats root.children

theorem Node.isUnrepeated_iff {root : Node} (h : NoneRepeats root.children) :
    root.IsUnrepeated ↔ ¬root.RootRepeats :=
  and_iff_left h

theorem noneRepeats_iff {nodes : List Node} :
    NoneRepeats nodes ↔ ∀ path block, Reached none nodes path block → ¬block.Repeats := by
  have h : ¬(∃ path block, Reached none nodes path block ∧ block.Repeats) ↔
      ¬∃ path block, Reached none nodes path block ∧ HasBlock block.name block.content :=
    not_congr exists_repeats_iff
  simp only [not_exists, not_and] at h
  exact h.symm

namespace Template

/-- A template is refused for the first repetition among the blocks that are reached, and only for
that. -/
theorem scanBlocks_error_or_ok (template : Template) :
    (∃ path block, FirstRepeated (Reached none template.root.children) path block ∧
        template.scanBlocks = .error (.recursiveBlock block.name)) ∨
      NoneRepeats template.root.children ∧
        ∃ scanned, template.scanBlocks = .ok scanned ∧ scanned.root = template.root := by
  obtain hfirst | ⟨blocks, hscan, hrecords⟩ := template.scanBlocks_cases
  · exact Or.inl hfirst
  · obtain _ | ⟨hnone, -, -⟩ := hrecords
    exact Or.inr ⟨noneRepeats_iff.mpr hnone, _, hscan, rfl⟩

theorem IsScanned.noneRepeats {template : Template} (h : template.IsScanned) :
    NoneRepeats template.root.children := by
  obtain ⟨_, _, -, hscan⟩ | ⟨hnone, -⟩ := template.scanBlocks_error_or_ok
  · rw [IsScanned, hscan] at h
    cases h
  · exact hnone

end Template

namespace Engine

/-- No block that is reached in a template that is held has a block of its own name directly inside,
so that no block has at all unless the root does. A document whose tree has such a block is refused
for the first of them, and every other document with a tree is taken in, whatever its root is. -/
theorem performAll_isUnrepeated_iff {engine : Engine} (hbuilt : engine.store.Built)
    (calls : List Registration) :
    let held := engine.performAll calls
    (∀ name template, held.store.find? name = some template →
        NoneRepeats template.root.children ∧
          (template.root.IsUnrepeated ↔ ¬template.root.RootRepeats)) ∧
      ∀ text given, (Registration.document text).Gives given →
        (∃ path block, FirstRepeated (Reached none given.root.children) path block ∧
            held.perform (.document text) = (.error (.node (.recursiveBlock block.name)), held)) ∨
          NoneRepeats given.root.children ∧ ∃ changed template,
            held.perform (.document text) = (.ok (), changed) ∧
            changed.store.find? given.name = some template ∧ template.root = given.root := by
  intro held
  refine ⟨fun name template hfind => ?_, fun text given hgives => ?_⟩
  · have hscanned := ((built_performAll hbuilt calls).of_find? hfind).2
    exact ⟨hscanned.noneRepeats, Node.isUnrepeated_iff hscanned.noneRepeats⟩
  · obtain ⟨path, block, hfirst, hscan⟩ | ⟨hnone, scanned, hscan, hroot⟩ :=
      given.scanBlocks_error_or_ok
    · exact Or.inl ⟨path, block, hfirst, held.perform_of_refused (.scanning hgives hscan)⟩
    · have hname : scanned.name = given.name := by rw [(Template.scanBlocks_eq_ok hscan).2]
      refine Or.inr ⟨hnone, held.holding scanned, scanned,
        held.perform_of_registers ⟨given, hgives, hscan⟩, ?_, hroot⟩
      rw [← hname]
      exact held.find?_holding scanned

/-- A block directly inside the root, of the same name as the root. -/
def titleInRoot : Template :=
  { name := "t", version := "", root := .block "title" [.block "title" []] }

def titleInRootText : String :=
  "\x7b\"name\": \"t\", \"root_node\": \x7b\"Type\": \"block\", \"Value\": \"title\", " ++
  "\"Children\": [\x7b\"Type\": \"block\", \"Value\": \"title\"\x7d]\x7d\x7d"

set_option maxRecDepth 4000 in
theorem gives_titleInRoot : (Registration.document titleInRootText).Gives titleInRoot := by
  have hread : Document.read? titleInRootText =
      some ⟨"t", "", ⟨.block, "title", [⟨.block, "title", []⟩]⟩⟩ := rfl
  exact .document hread rfl

/-- A document whose root is a title with a title directly inside is taken in. -/
theorem not_isUnrepeated_titleInRoot :
    (Registration.document titleInRootText).Gives titleInRoot ∧
      ∃ changed template,
        ({} : Engine).perform (.document titleInRootText) = (.ok (), changed) ∧
        changed.store.find? "t" = some template ∧ ¬template.root.IsUnrepeated := by
  have hregisters : (Registration.document titleInRootText).Registers
      { titleInRoot with blocks := [("title", [])] } := ⟨_, gives_titleInRoot, rfl⟩
  exact ⟨gives_titleInRoot, _, _, perform_of_registers {} hregisters, find?_holding {} _,
    fun hunrepeated => hunrepeated.1 ⟨_, _, rfl, [], List.mem_singleton_self _⟩⟩

/-- A title inside a block that is inside another title. -/
def titles : Template :=
  .ofMarkup "t" (.source [.block "title" [.block "main" [.block "title" []]]])

/-- A title two levels inside another is held. -/
theorem performAll_isUnrepeated_iff_titles :
    ({} : Engine).store.Built ∧ ∃ template,
      (({} : Engine).performAll [.template titles]).store.find? "t" = some template ∧
        template.root.IsUnrepeated := by
  have hbuilt : ({} : Engine).store.Built := .empty 64
  obtain ⟨hheld, -⟩ := performAll_isUnrepeated_iff hbuilt [.template titles]
  have hfind : (({} : Engine).performAll [.template titles]).store.find? "t" =
      some { titles with blocks := [("main", [.block "title" []]),
        ("title", [.block "main" [.block "title" []]])] } := rfl
  refine ⟨hbuilt, _, hfind, (hheld "t" _ hfind).2.mpr ?_⟩
  rintro ⟨name, content, hroot, -⟩
  cases hroot

end Engine

end TemplateEngine
