import TemplateEngine.Proofs.Template.InPlace
import TemplateEngine.Proofs.Template.Registered

/-! # Blocks that are gathered

The blocks of a template are those among the children of its root, and those directly inside a block
gathered already. Each has a path, which gives it a place in two orders: one finds the first block
directly inside a block of its own name, and the other the last block of each name. -/

namespace TemplateEngine

/-- A block, with the name of the block that it stands directly inside, if it does. -/
structure Block where
  around : Option String
  name : String
  content : List Node

def Block.Repeats (block : Block) : Prop :=
  block.around = some block.name

/-- The blocks that are reached from nodes directly inside `around`: those among the nodes, and
those directly inside a block that is reached. A path has the index of each block in the one around
it, from the outermost to the innermost. -/
inductive Reached (around : Option String) (nodes : List Node) : List Nat → Block → Prop
  | direct {index : Nat} {name : String} {content : List Node}
      (h : nodes[index]? = some (.block name content)) :
      Reached around nodes [index] ⟨around, name, content⟩
  | inside {path : List Nat} {outer : Block} {index : Nat} {name : String} {content : List Node}
      (h : Reached around nodes path outer)
      (hinner : outer.content[index]? = some (.block name content)) :
      Reached around nodes (path ++ [index]) ⟨some outer.name, name, content⟩

/-- A block that the node is, at the end of the path, or one that is reached from its content. -/
inductive Node.Holds (around : Option String) : Node → List Nat → Block → Prop
  | itself {name : String} {content : List Node} :
      Holds around (.block name content) [] ⟨around, name, content⟩
  | inside {name : String} {content : List Node} {path : List Nat} {block : Block}
      (h : Reached (some name) content path block) : Holds around (.block name content) path block

section

variable {around : Option String} {node : Node} {nodes content : List Node} {name : String}
  {index : Nat} {path rest : List Nat} {block : Block}

theorem Reached.within (h : Reached (some name) content path block)
    (hnode : nodes[index]? = some (.block name content)) :
    Reached around nodes (index :: path) block := by
  induction h with
  | direct hinner => exact .inside (.direct hnode) hinner
  | inside _ hinner ih => exact .inside ih hinner

/-- A path goes through the outermost block first. -/
theorem Reached.exists_holds (h : Reached around nodes path block) :
    ∃ index rest node, path = index :: rest ∧ nodes[index]? = some node ∧
      node.Holds around rest block := by
  induction h with
  | direct hnode => exact ⟨_, [], _, rfl, hnode, .itself⟩
  | @inside _ _ index _ _ _ hinner ih =>
    obtain ⟨first, rest, node, rfl, hnode, hholds⟩ := ih
    refine ⟨first, rest ++ [index], node, rfl, hnode, ?_⟩
    cases hholds with
    | itself => exact .inside (.direct hinner)
    | inside hrest => exact .inside (.inside hrest hinner)

theorem reached_cons_iff : Reached around nodes (index :: rest) block ↔
    ∃ node, nodes[index]? = some node ∧ node.Holds around rest block := by
  constructor
  · intro h
    obtain ⟨_, _, node, hpath, hnode, hholds⟩ := h.exists_holds
    obtain ⟨rfl, rfl⟩ := List.cons.inj hpath
    exact ⟨node, hnode, hholds⟩
  · rintro ⟨node, hnode, hholds⟩
    cases hholds with
    | itself => exact .direct hnode
    | inside hrest => exact hrest.within hnode

theorem Reached.path_ne_nil (h : Reached around nodes path block) : path ≠ [] := by
  obtain ⟨_, _, _, rfl, -⟩ := h.exists_holds
  exact List.cons_ne_nil _ _

theorem not_reached_nil : ¬Reached around [] path block := by
  intro h
  obtain ⟨_, _, _, -, hnode, -⟩ := h.exists_holds
  simp at hnode

theorem reached_zero : Reached around (node :: nodes) (0 :: rest) block ↔
    node.Holds around rest block := by
  simp [reached_cons_iff]

theorem reached_succ : Reached around (node :: nodes) ((index + 1) :: rest) block ↔
    Reached around nodes (index :: rest) block := by
  simp [reached_cons_iff]

theorem Reached.unique {other : Block} (h : Reached around nodes path block)
    (hother : Reached around nodes path other) : block = other := by
  induction path generalizing around nodes with
  | nil => exact absurd rfl h.path_ne_nil
  | cons index rest ih =>
    obtain ⟨node, hnode, hholds⟩ := reached_cons_iff.mp h
    obtain ⟨node', hnode', hholds'⟩ := reached_cons_iff.mp hother
    obtain rfl : node = node' := Option.some.inj (hnode.symm.trans hnode')
    cases hholds with
    | itself =>
      cases hholds' with
      | itself => rfl
      | inside hinner => exact absurd rfl hinner.path_ne_nil
    | inside hrest =>
      cases hholds' with
      | itself => exact absurd rfl hrest.path_ne_nil
      | inside hrest' => exact ih hrest hrest'

end

/-- Which of two blocks counts first if one is inside the other. -/
inductive Nesting where
  | outerFirst
  | innerFirst

/-- Siblings count in order, each with all that is inside it. -/
inductive Precedes (nesting : Nesting) : List Nat → List Nat → Prop
  | outer {index : Nat} {rest : List Nat} (h : nesting = .outerFirst) :
      Precedes nesting [] (index :: rest)
  | inner {index : Nat} {rest : List Nat} (h : nesting = .innerFirst) :
      Precedes nesting (index :: rest) []
  | sibling {index later : Nat} {rest rest' : List Nat} (h : index < later) :
      Precedes nesting (index :: rest) (later :: rest')
  | step {index : Nat} {rest rest' : List Nat} (h : Precedes nesting rest rest') :
      Precedes nesting (index :: rest) (index :: rest')

namespace Precedes

variable {nesting : Nesting} {path other rest rest' : List Nat} {index later : Nat}

theorem asymm (h : Precedes nesting path other) : ¬Precedes nesting other path := by
  induction h with
  | outer h =>
    rintro (_ | h' | _ | _)
    rw [h] at h'
    cases h'
  | inner h =>
    rintro (h' | _ | _ | _)
    rw [h] at h'
    cases h'
  | sibling h =>
    intro hother
    cases hother with
    | sibling h' => omega
    | step h' => omega
  | step _ ih =>
    intro hother
    cases hother with
    | sibling h' => omega
    | step h' => exact ih h'

theorem succ (h : Precedes nesting (index :: rest) (later :: rest')) :
    Precedes nesting ((index + 1) :: rest) ((later + 1) :: rest') := by
  cases h with
  | sibling h => exact .sibling (by omega)
  | step h => exact .step h

end Precedes

/-- The block repeats the name around it, and all others that do come later in document order. -/
structure FirstRepeated (found : List Nat → Block → Prop) (path : List Nat) (block : Block) :
    Prop where
  reached : found path block
  repeats : block.Repeats
  first : ∀ other other', found other other' → other'.Repeats →
    other = path ∨ Precedes .outerFirst path other

/-- The block is the last of its name where blocks come after all that is inside them. -/
structure LastNamed (found : List Nat → Block → Prop) (name : String) (path : List Nat)
    (block : Block) : Prop where
  reached : found path block
  name_eq : block.name = name
  last : ∀ other other', found other other' → other'.name = name →
    other = path ∨ Precedes .innerFirst other path

theorem LastNamed.path_unique {found : List Nat → Block → Prop} {name : String}
    {path path' : List Nat} {block block' : Block} (h : LastNamed found name path block)
    (h' : LastNamed found name path' block') : path' = path := by
  rcases h.last path' block' h'.reached h'.name_eq with heq | hbefore
  · exact heq
  · rcases h'.last path block h.reached h.name_eq with heq | hbefore'
    · exact heq.symm
    · exact absurd hbefore' hbefore.asymm

/-- What it comes to if blocks are recorded: the first repetition is an error, and without one the
last block of each name is found under it. -/
inductive Records (found : List Nat → Block → Prop) (blocks : BlockMap) :
    Except NodeError BlockMap → Prop
  | error {path : List Nat} {block : Block} (h : FirstRepeated found path block) :
      Records found blocks (.error (.recursiveBlock block.name))
  | ok {recorded : BlockMap} (hnone : ∀ path block, found path block → ¬block.Repeats)
      (hfind : ∀ name, (∃ path block, LastNamed found name path block ∧
          Dict.find? recorded name = some block.content) ∨
        (∀ path block, found path block → block.name ≠ name) ∧
          Dict.find? recorded name = Dict.find? blocks name)
      (hsorted : Dict.Sorted blocks → Dict.Sorted recorded) : Records found blocks (.ok recorded)

section

variable {around : Option String} {node : Node} {nodes : List Node} {name : String}
  {path : List Nat} {block : Block}

/-- A repetition in the first node comes before all in the others. -/
theorem FirstRepeated.zero (h : FirstRepeated (node.Holds around) path block) :
    FirstRepeated (Reached around (node :: nodes)) (0 :: path) block := by
  refine ⟨reached_zero.mpr h.reached, h.repeats, fun other other' hother hrepeats => ?_⟩
  obtain ⟨index, rest, -, rfl, -⟩ := hother.exists_holds
  cases index with
  | zero =>
    rcases h.first rest other' (reached_zero.mp hother) hrepeats with rfl | hlater
    · exact Or.inl rfl
    · exact Or.inr (.step hlater)
  | succ index => exact Or.inr (.sibling (by omega))

theorem FirstRepeated.succ (h : FirstRepeated (Reached around nodes) path block)
    (hnone : ∀ path block, node.Holds around path block → ¬block.Repeats) :
    ∃ later, FirstRepeated (Reached around (node :: nodes)) later block := by
  obtain ⟨index, rest, -, rfl, -⟩ := h.reached.exists_holds
  refine ⟨(index + 1) :: rest, reached_succ.mpr h.reached, h.repeats,
    fun other other' hother hrepeats => ?_⟩
  obtain ⟨index', rest', -, rfl, -⟩ := hother.exists_holds
  cases index' with
  | zero => exact absurd hrepeats (hnone rest' other' (reached_zero.mp hother))
  | succ index' =>
    rcases h.first _ other' (reached_succ.mp hother) hrepeats with heq | hlater
    · obtain ⟨rfl, rfl⟩ := List.cons.inj heq
      exact Or.inl rfl
    · exact Or.inr hlater.succ

/-- A block in the first node is the last of its name if no other node has one. -/
theorem LastNamed.zero (h : LastNamed (node.Holds around) name path block)
    (hnone : ∀ path block, Reached around nodes path block → block.name ≠ name) :
    LastNamed (Reached around (node :: nodes)) name (0 :: path) block := by
  refine ⟨reached_zero.mpr h.reached, h.name_eq, fun other other' hother hname => ?_⟩
  obtain ⟨index, rest, -, rfl, -⟩ := hother.exists_holds
  cases index with
  | zero =>
    rcases h.last rest other' (reached_zero.mp hother) hname with rfl | hbefore
    · exact Or.inl rfl
    · exact Or.inr (.step hbefore)
  | succ index => exact absurd hname (hnone _ other' (reached_succ.mp hother))

theorem LastNamed.succ (h : LastNamed (Reached around nodes) name path block) :
    ∃ later, LastNamed (Reached around (node :: nodes)) name later block := by
  obtain ⟨index, rest, -, rfl, -⟩ := h.reached.exists_holds
  refine ⟨(index + 1) :: rest, reached_succ.mpr h.reached, h.name_eq,
    fun other other' hother hname => ?_⟩
  obtain ⟨index', rest', -, rfl, -⟩ := hother.exists_holds
  cases index' with
  | zero => exact Or.inr (.sibling (by omega))
  | succ index' =>
    rcases h.last _ other' (reached_succ.mp hother) hname with heq | hbefore
    · obtain ⟨rfl, rfl⟩ := List.cons.inj heq
      exact Or.inl rfl
    · exact Or.inr hbefore.succ

end

namespace Records

variable {around : Option String} {node : Node} {nodes content : List Node} {name : String}
  {blocks : BlockMap} {result : Except NodeError BlockMap}

theorem of_none {found : List Nat → Block → Prop} (h : ∀ path block, ¬found path block) :
    Records found blocks (.ok blocks) :=
  .ok (fun path block hfound => absurd hfound (h path block))
    (fun _ => Or.inr ⟨fun path block hfound => absurd hfound (h path block), rfl⟩) id

theorem cons {next : BlockMap → Except NodeError BlockMap}
    (hnode : Records (node.Holds around) blocks result)
    (hnodes : ∀ between, Records (Reached around nodes) between (next between)) :
    Records (Reached around (node :: nodes)) blocks (result >>= next) := by
  cases hnode with
  | error hfirst => exact .error (hfirst.zero)
  | @ok between hnone hfind hsorted =>
    rw [ok_bind]
    have hrest := hnodes between
    generalize next between = result at hrest
    cases hrest with
    | error hfirst =>
      obtain ⟨later, hlater⟩ := hfirst.succ hnone
      exact .error hlater
    | @ok recorded hnone' hfind' hsorted' =>
      refine .ok (fun path block hreached => ?_) (fun name => ?_) fun h => hsorted' (hsorted h)
      · obtain ⟨index, rest, -, rfl, -⟩ := hreached.exists_holds
        cases index with
        | zero => exact hnone rest block (reached_zero.mp hreached)
        | succ index => exact hnone' _ block (reached_succ.mp hreached)
      · obtain ⟨path, block, hlast, hrecorded⟩ | ⟨habsent', hsame'⟩ := hfind' name
        · obtain ⟨later, hlater⟩ := hlast.succ
          exact Or.inl ⟨later, block, hlater, hrecorded⟩
        · obtain ⟨path, block, hlast, hbetween⟩ | ⟨habsent, hsame⟩ := hfind name
          · exact Or.inl ⟨0 :: path, block, hlast.zero habsent',
              hsame'.trans hbetween⟩
          · refine Or.inr ⟨fun path block hreached => ?_, hsame'.trans hsame⟩
            obtain ⟨index, rest, -, rfl, -⟩ := hreached.exists_holds
            cases index with
            | zero => exact habsent rest block (reached_zero.mp hreached)
            | succ index => exact habsent' _ block (reached_succ.mp hreached)

theorem block (hname : around ≠ some name)
    (h : Records (Reached (some name) content) blocks result) :
    Records (Node.Holds around (.block name content)) blocks
      (result >>= fun inner => .ok (Dict.insert name content inner)) := by
  cases h with
  | error hfirst =>
    refine .error ⟨.inside hfirst.reached, hfirst.repeats, fun other other' hother hrepeats => ?_⟩
    cases hother with
    | itself => exact absurd hrepeats hname
    | inside hinner => exact hfirst.first other other' hinner hrepeats
  | @ok inner hnone hfind hsorted =>
    rw [ok_bind]
    refine .ok (fun path block hholds => ?_) (fun wanted => ?_) fun hblocks =>
      (hsorted hblocks).insert name content
    · cases hholds with
      | itself => exact hname
      | inside hinner => exact hnone path block hinner
    · by_cases hwanted : wanted = name
      · subst hwanted
        refine Or.inl ⟨[], _, ⟨.itself, rfl, fun other other' hother _ => ?_⟩,
          Dict.find?_insert_self wanted content inner⟩
        cases hother with
        | itself => exact Or.inl rfl
        | inside hinner =>
          obtain ⟨index, rest, -, rfl, -⟩ := hinner.exists_holds
          exact Or.inr (.inner rfl)
      · rw [Dict.find?_insert_of_ne hwanted]
        obtain ⟨path, block, hlast, hinner⟩ | ⟨habsent, hsame⟩ := hfind wanted
        · refine Or.inl ⟨path, block, ⟨.inside hlast.reached, hlast.name_eq,
            fun other other' hother hother' => ?_⟩, hinner⟩
          cases hother with
          | itself => exact absurd hother'.symm hwanted
          | inside hreached => exact hlast.last other other' hreached hother'
        · refine Or.inr ⟨fun path block hholds => ?_, hsame⟩
          cases hholds with
          | itself => exact fun heq => hwanted heq.symm
          | inside hreached => exact habsent path block hreached

end Records

mutual

theorem BlockMap.records_record (around : Option String) (blocks : BlockMap) : ∀ node : Node,
    Records (node.Holds around) blocks (record around blocks node)
  | .block name content => by
    rw [record]
    split
    · next hrepeats =>
      have hfirst : FirstRepeated ((Node.block name content).Holds around) []
          ⟨around, name, content⟩ := by
        refine ⟨.itself, hrepeats, fun other other' hother _ => ?_⟩
        cases hother with
        | itself => exact Or.inl rfl
        | inside hinner =>
          obtain ⟨index, rest, -, rfl, -⟩ := hinner.exists_holds
          exact Or.inr (.outer rfl)
      exact .error hfirst
    · next hname => exact (records_recordAll (some name) blocks content).block hname
  | .source _ => .of_none nofun
  | .content _ => .of_none nofun
  | .comment _ => .of_none nofun
  | .display _ => .of_none nofun
  | .statement _ => .of_none nofun
  | .inclusion _ => .of_none nofun

theorem BlockMap.records_recordAll (around : Option String) (blocks : BlockMap) :
    ∀ nodes : List Node, Records (Reached around nodes) blocks (recordAll around blocks nodes)
  | [] => .of_none fun _ _ => not_reached_nil
  | node :: nodes =>
    (records_record around blocks node).cons fun between => records_recordAll around between nodes

end

def HasBlock (name : String) (nodes : List Node) : Prop :=
  ∃ content, .block name content ∈ nodes

/-- Blocks repeat the names around them exactly if blocks have their own names directly inside. -/
theorem exists_repeats_iff {nodes : List Node} :
    (∃ path block, Reached none nodes path block ∧ block.Repeats) ↔
      ∃ path block, Reached none nodes path block ∧ HasBlock block.name block.content := by
  constructor
  · rintro ⟨path, block, hreached, hrepeats⟩
    cases hreached with
    | direct _ => cases hrepeats
    | @inside path outer index name content houter hinner =>
      obtain rfl : outer.name = name := Option.some.inj hrepeats
      exact ⟨path, outer, houter, content, List.mem_of_getElem? hinner⟩
  · rintro ⟨path, block, hreached, content, hmem⟩
    obtain ⟨index, hindex⟩ := List.mem_iff_getElem?.mp hmem
    exact ⟨path ++ [index], _, .inside hreached hindex, rfl⟩

namespace Template

theorem scanBlocks_cases (template : Template) :
    let found := Reached none template.root.children
    (∃ path block, FirstRepeated found path block ∧
        template.scanBlocks = .error (.recursiveBlock block.name)) ∨
      ∃ blocks, template.scanBlocks = .ok { template with blocks } ∧
        Records found [] (.ok blocks) := by
  intro found
  have hrecords := BlockMap.records_recordAll none [] template.root.children
  rw [scanBlocks]
  cases hresult : BlockMap.recordAll none [] template.root.children with
  | error error =>
    rw [hresult] at hrecords
    cases hrecords with
    | @error path block hfirst => exact Or.inl ⟨path, block, hfirst, rfl⟩
  | ok blocks =>
    rw [hresult] at hrecords
    exact Or.inr ⟨blocks, rfl, hrecords⟩

/-- If a block among those reached stands directly inside a block of its own name, the first such
block in document order is the error and the template stays as it was. Otherwise, whatever blocks
it had before, its own included, it then has the last block reached of each name, where a block
counts after those inside it. -/
theorem rescan_reached (template : Template) :
    let found := Reached none template.root.children
    (∃ path block, FirstRepeated found path block ∧
        template.rescan = (.error (.recursiveBlock block.name), template)) ∨
      (∀ path block, found path block → ¬block.Repeats) ∧ ∃ blocks : BlockMap,
        (∀ earlier : BlockMap,
          rescan { template with blocks := earlier } = (.ok (), { template with blocks })) ∧
        (Dict.keys blocks).Nodup ∧
        (∀ name, name ∈ Dict.keys blocks ↔ ∃ path block, found path block ∧ block.name = name) ∧
        ∀ name content, Dict.find? blocks name = some content ↔
          ∃ path block, LastNamed found name path block ∧ block.content = content := by
  intro found
  obtain ⟨path, block, hfirst, hscan⟩ | ⟨blocks, hscan, hrecords⟩ := template.scanBlocks_cases
  · exact Or.inl ⟨path, block, hfirst, by rw [rescan_eq, hscan, Steps.settled]⟩
  · obtain _ | ⟨hnone, hfind, hsorted⟩ := hrecords
    have hblocks : Dict.Sorted blocks := hsorted List.Pairwise.nil
    have hrescan : ∀ earlier : BlockMap,
        rescan { template with blocks := earlier } = (.ok (), { template with blocks }) := by
      intro earlier
      have hearlier : scanBlocks { template with blocks := earlier } = template.scanBlocks := rfl
      rw [rescan_eq, hearlier, hscan, Steps.settled]
    refine Or.inr ⟨hnone, blocks, hrescan, hblocks.nodup_keys, fun name => ?_,
      fun name content => ?_⟩
    · obtain ⟨path, block, hlast, hblock⟩ | ⟨habsent, hempty⟩ := hfind name
      · exact iff_of_true (Dict.mem_keys_of_find?_eq_some hblock)
          ⟨path, block, hlast.reached, hlast.name_eq⟩
      · refine iff_of_false (fun hmem => ?_) fun ⟨path, block, hfound, hname⟩ =>
          habsent path block hfound hname
        obtain ⟨⟨key, content⟩, hentry, rfl⟩ := List.mem_map.mp hmem
        rw [hblocks.find?_eq_some_iff.mpr hentry] at hempty
        cases hempty
    · constructor
      · intro hcontent
        obtain ⟨path, block, hlast, hblock⟩ | ⟨-, hempty⟩ := hfind name
        · exact ⟨path, block, hlast, Option.some.inj (hblock.symm.trans hcontent)⟩
        · rw [hcontent] at hempty
          cases hempty
      · rintro ⟨path, block, hlast, rfl⟩
        obtain ⟨path', block', hlast', hblock⟩ | ⟨habsent, -⟩ := hfind name
        · obtain rfl := hlast.path_unique hlast'
          rw [hlast.reached.unique hlast'.reached, hblock]
        · exact absurd hlast.name_eq (habsent path block hlast.reached)

/-- The outer of two blocks of one name comes last, since the one between has another name. -/
example : (ofMarkup "t" (.source [.block "a" [.block "b" [.block "a" []]]])).scanBlocks =
    .ok ⟨"t", "1", .source [.block "a" [.block "b" [.block "a" []]]],
      [("a", [.block "b" [.block "a" []]]), ("b", [.block "a" []])]⟩ := rfl

end Template

end TemplateEngine
