import TemplateEngine.Yaml.Cursor

/-! # Block scalars

A block scalar is the lines after its header that are indented alike. A literal one keeps its line
ends, and a folded one folds those between lines that start with no blank. -/

namespace TemplateEngine.Yaml

/-- What happens to the line ends after the last line: none stays, one stays, or all stay. -/
inductive Chomping where
  | strip
  | clip
  | keep
  deriving DecidableEq, Repr

/-- A header says how to chomp, and how many columns the lines are indented more than the
collection around them; zero stands for as many as the first line. -/
structure BlockHeader where
  chomping : Chomping := .clip
  increment : Nat := 0
  deriving DecidableEq, Repr

def BlockHeader.takeChomping (header : BlockHeader) (c : Cursor) : BlockHeader × Cursor :=
  match c.next? with
  | some '-' => ({ header with chomping := .strip }, c.advance 1)
  | some '+' => ({ header with chomping := .keep }, c.advance 1)
  | _ => (header, c)

def BlockHeader.takeIncrement? (header : BlockHeader) (c : Cursor) :
    Option (BlockHeader × Cursor) :=
  match c.next? with
  | some d =>
    if d = '0' then none
    else if d.isDigit then some ({ header with increment := d.toNat - '0'.toNat }, c.advance 1)
    else some (header, c)
  | none => some (header, c)

/-- The header after its indicator. Its two parts come in any order. -/
def BlockHeader.take? (c : Cursor) : Option (BlockHeader × Cursor) := do
  let (header, c) := BlockHeader.takeChomping {} c
  let (header, c) ← header.takeIncrement? c
  let (header, c) := if header.chomping = .clip then header.takeChomping c else (header, c)
  some (header, ← c.endLine?)

/-- Empty lines: their line ends, and the greatest column that their spaces and those of the next
line lead to. At indent zero, which stands for one not yet known, all spaces count. -/
def takeEmptyLines? (indent : Nat) : (fuel : Nat) → Cursor → Option (List Char × Nat × Cursor)
  | 0, _ => none
  | fuel + 1, c =>
    let spaces := (c.rest.takeWhile (· = ' ')).length
    let c := c.advance (if indent = 0 then spaces else min spaces (indent - c.column))
    if (indent = 0 || c.column < indent) && c.next? = some '\t' then none
    else
      match c.takeBreak? with
      | none => some ([], c.column, c)
      | some (b, next) => do
        let (breaks, widest, next) ← takeEmptyLines? indent fuel next
        some (b :: breaks, max c.column widest, next)

/-- What has been read of a block scalar: the end of the last line, the ends of the empty lines
after it, and whether it started with a blank. -/
structure BlockTail where
  lineEnd : List Char := []
  emptyLines : List Char
  blankStart : Bool := false

/-- The line ends before one more line. -/
def BlockTail.text (folded : Bool) (tail : BlockTail) (blankStart : Bool) : List Char :=
  if folded && tail.lineEnd = ['\n'] && !tail.blankStart && !blankStart then
    if tail.emptyLines = [] then [' '] else tail.emptyLines
  else tail.lineEnd ++ tail.emptyLines

def BlockTail.chomp (tail : BlockTail) : Chomping → List Char
  | .strip => []
  | .clip => tail.lineEnd
  | .keep => tail.lineEnd ++ tail.emptyLines

/-- The lines of a block scalar that start in column `indent`. -/
def takeBlockLines? (folded : Bool) (chomping : Chomping) (indent : Nat) :
    (fuel : Nat) → BlockTail → Cursor → Option (List Char × Cursor)
  | 0, _, _ => none
  | fuel + 1, tail, c =>
    if c.column ≠ indent || c.rest = [] then some (tail.chomp chomping, c)
    else do
      let blankStart := c.next?.any isBlank
      let (line, c) := c.takeWhile fun _ => true
      let (lineEnd, c) := match c.takeBreak? with
        | some (b, next) => ([b], next)
        | none => ([], c)
      let (emptyLines, _, c) ← takeEmptyLines? indent (fuel + 1) c
      let (text, c) ← takeBlockLines? folded chomping indent fuel
        { lineEnd, emptyLines, blankStart } c
      some (tail.text folded blankStart ++ line ++ text, c)

/-- The scalar after its indicator, in a collection whose entries start in column `least - 1`. -/
def takeBlock? (folded : Bool) (least fuel : Nat) (c : Cursor) : Option (List Char × Cursor) := do
  let (header, c) ← BlockHeader.take? c
  let stated := if header.increment = 0 then 0 else least - 1 + header.increment
  let (emptyLines, widest, c) ← takeEmptyLines? stated fuel c
  let indent := if stated = 0 then max widest (max least 1) else stated
  takeBlockLines? folded header.chomping indent fuel { emptyLines } c

end TemplateEngine.Yaml
