import TemplateEngine.Yaml.Node

/-! # Nodes from tokens

The grammar of documents over tokens: properties come before the node that has them, and a key or a
value that is not there is an empty scalar. -/

namespace TemplateEngine.Yaml

/-- The handles that need no declaration. -/
def standardDeclarations : List Declaration :=
  [⟨"!", "!".toUTF8⟩, ⟨"!!", "tag:yaml.org,2002:".toUTF8⟩]

/-- The address of a tag, whose handle must be declared. -/
def Tag.address? (tag : Tag) (declarations : List Declaration) : Option ByteArray :=
  if tag.handle = "" then some tag.suffix
  else (declarations.find? (·.handle = tag.handle)).map (·.start ++ tag.suffix)

namespace Node

abbrev Reader (α : Type) := List Token → Option (α × List Token)

/-- Properties in any order, each at most once. -/
def readProperties (declarations : List Declaration) : Reader Properties
  | .anchor n :: .tag tag :: rest | .tag tag :: .anchor n :: rest => do
    some (⟨some n, some (← tag.address? declarations)⟩, rest)
  | .anchor n :: rest => some ({ anchor := some n }, rest)
  | .tag tag :: rest => do
    some ({ tag := some (← tag.address? declarations) }, rest)
  | rest => some ({}, rest)

/-- Where an item, a key or a value is not there, one of these comes next. -/
def endsItem : List Token → Bool
  | .item :: _ | .blockEnd :: _ => true
  | _ => false

def endsField : List Token → Bool
  | .key :: _ | .value :: _ | .blockEnd :: _ => true
  | _ => false

def endsFlowItem : List Token → Bool
  | .comma :: _ | .flowListEnd :: _ => true
  | _ => false

def endsFlowField : List Token → Bool
  | .comma :: _ | .flowMappingEnd :: _ => true
  | _ => false

def atValue : List Token → Bool
  | .value :: _ => true
  | _ => false

section

variable (declarations : List Declaration)

mutual

/-- A node. In flow collections there are no blocks, and only in a block mapping may a list have no
column of its own. -/
def read (block columnless : Bool) : (fuel : Nat) → Reader Node
  | 0, _ => none
  | _ + 1, .reference n :: rest => some (.reference n, rest)
  | fuel + 1, tokens => do
    let (properties, tokens) ← readProperties declarations tokens
    match tokens with
    | .scalar plain text :: rest => some (.scalar properties plain text, rest)
    | .flowListStart :: rest => do
      let (items, rest) ← readFlowItems fuel rest
      some (.list properties items, rest)
    | .flowMappingStart :: rest => do
      let (fields, rest) ← readFlowFields fuel rest
      some (.mapping properties fields, rest)
    | _ =>
      match block, columnless, tokens with
      | _, true, .item :: rest => do
        let (items, rest) ← readColumnless fuel (.item :: rest)
        some (.list properties items, rest)
      | true, _, .listStart :: rest => do
        let (items, rest) ← readItems fuel rest
        some (.list properties items, rest)
      | true, _, .mappingStart :: rest => do
        let (fields, rest) ← readFields fuel rest
        some (.mapping properties fields, rest)
      | _, _, tokens =>
        if properties.anchor.isSome || properties.tag.isSome then
          some (.scalar properties true "", tokens)
        else none

/-- A node, or nothing. -/
def readUnless (ends : List Token → Bool) (block columnless : Bool) : (fuel : Nat) → Reader Node
  | 0, _ => none
  | fuel + 1, tokens =>
    if ends tokens then some (.empty, tokens) else read block columnless fuel tokens

/-- The items of a block list with its end. -/
def readItems : (fuel : Nat) → Reader (List Node)
  | 0, _ => none
  | fuel + 1, .item :: rest => do
    let (item, rest) ← readUnless endsItem true false fuel rest
    let (items, rest) ← readItems fuel rest
    some (item :: items, rest)
  | _ + 1, .blockEnd :: rest => some ([], rest)
  | _, _ => none

/-- The items of a list without column of its own. -/
def readColumnless : (fuel : Nat) → Reader (List Node)
  | 0, _ => none
  | fuel + 1, .item :: rest => do
    let (item, rest) ← readUnless (fun s => endsItem s || endsField s) true false fuel rest
    let (items, rest) ← readColumnless fuel rest
    some (item :: items, rest)
  | _ + 1, rest => some ([], rest)

/-- The fields of a block mapping with its end. -/
def readFields : (fuel : Nat) → Reader (List (Node × Node))
  | 0, _ => none
  | fuel + 1, .key :: rest => do
    let (key, rest) ← readUnless endsField true true fuel rest
    let (value, rest) ← readValue endsField true fuel rest
    let (fields, rest) ← readFields fuel rest
    some ((key, value) :: fields, rest)
  | _ + 1, .blockEnd :: rest => some ([], rest)
  | _, _ => none

/-- The value after a key, which may be absent. -/
def readValue (ends : List Token → Bool) (block : Bool) : (fuel : Nat) → Reader Node
  | 0, _ => none
  | fuel + 1, .value :: rest => readUnless ends block block fuel rest
  | _ + 1, rest => some (.empty, rest)

/-- The items of a flow list with its end. A comma may come after the last. -/
def readFlowItems : (fuel : Nat) → Reader (List Node)
  | 0, _ => none
  | _ + 1, .flowListEnd :: rest => some ([], rest)
  | fuel + 1, tokens => do
    let (item, rest) ← readFlowItem fuel tokens
    match rest with
    | .flowListEnd :: rest => some ([item], rest)
    | .comma :: rest => do
      let (items, rest) ← readFlowItems fuel rest
      some (item :: items, rest)
    | _ => none

/-- An item of a flow list. A field stands for a mapping with this field alone; where its key is
absent, the token after the key's sign does not count. -/
def readFlowItem : (fuel : Nat) → Reader Node
  | 0, _ => none
  | fuel + 1, .key :: tokens => do
    let (key, rest) ←
      if atValue tokens || endsFlowItem tokens then some (.empty, tokens.drop 1)
      else read false false fuel tokens
    let (value, rest) ← readValue endsFlowItem false fuel rest
    some (.mapping {} [(key, value)], rest)
  | fuel + 1, tokens => read false false fuel tokens

/-- The fields of a flow mapping with its end. A comma may come after the last. -/
def readFlowFields : (fuel : Nat) → Reader (List (Node × Node))
  | 0, _ => none
  | _ + 1, .flowMappingEnd :: rest => some ([], rest)
  | fuel + 1, tokens => do
    let (field, rest) ← readFlowField fuel tokens
    match rest with
    | .flowMappingEnd :: rest => some ([field], rest)
    | .comma :: rest => do
      let (fields, rest) ← readFlowFields fuel rest
      some (field :: fields, rest)
    | _ => none

/-- A field of a flow mapping. What has no sign of a key is a key without value. -/
def readFlowField : (fuel : Nat) → Reader (Node × Node)
  | 0, _ => none
  | fuel + 1, .key :: tokens => do
    let (key, rest) ← readUnless (fun s => atValue s || endsFlowField s) false false fuel tokens
    let (value, rest) ← readValue endsFlowField false fuel rest
    some ((key, value), rest)
  | fuel + 1, tokens => do
    let (key, rest) ← read false false fuel tokens
    some ((key, .empty), rest)

end

end

/-- The declarations before a document. The version may be stated once, and no handle is declared
twice. -/
def readDirectives (versionStated : Bool) (declarations : List Declaration) :
    Reader (List Declaration)
  | .directive .version :: rest =>
    if versionStated then none else readDirectives true declarations rest
  | .directive (.declaration new) :: rest =>
    if declarations.any (·.handle = new.handle) then none
    else readDirectives versionStated (new :: declarations) rest
  | rest => some (declarations, rest)

/-- A document after its start may be empty. -/
def readContent (declarations : List Declaration) : Reader Node
  | [] => some (.empty, [])
  | tokens =>
    match tokens with
    | .directive _ :: _ | .documentStart :: _ | .documentEnd :: _ => some (.empty, tokens)
    | _ => read declarations true false (3 * tokens.length + 3) tokens

/-- A document. Its start must be marked if directives come before it. -/
def readDocument : Reader Node := fun tokens =>
  match tokens with
  | .directive _ :: _ | .documentStart :: _ => do
    let (declarations, rest) ← readDirectives false [] tokens
    match rest with
    | .documentStart :: rest => readContent (declarations ++ standardDeclarations) rest
    | _ => none
  | _ => read standardDeclarations true false (3 * tokens.length + 3) tokens

/-- The document that tokens make, if there are any. After it only marks of its end may come. -/
def ofTokens? (tokens : List Token) : Option (Option Node) :=
  if tokens.isEmpty then some none
  else do
    let (node, rest) ← readDocument tokens
    let ended := rest.all fun
      | .documentEnd => true
      | _ => false
    if ended then some (some node) else none

end Node

end TemplateEngine.Yaml
