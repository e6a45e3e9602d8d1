import TemplateEngine.Yaml.Character

/-! # Places in a text of YAML

The text still to be read, and where it starts: the layout of a text decides what its collections
are, so that columns and lines count. -/

namespace TemplateEngine.Yaml

structure Cursor where
  rest : List Char
  line : Nat := 0
  /-- The number of characters before it in the line, and of their bytes. -/
  column : Nat := 0
  offset : Nat := 0

namespace Cursor

def advance (count : Nat) (c : Cursor) : Cursor :=
  let (taken, rest) := c.rest.splitAt count
  { c with
    rest, column := c.column + count,
    offset := taken.foldl (fun offset char => offset + char.utf8Size) c.offset }

/-- The start of the next line, which is after a line end of some characters. -/
def nextLine (count : Nat) (c : Cursor) : Cursor :=
  { rest := c.rest.drop count, line := c.line + 1 }

/-- The line end at a place as it counts in a scalar, and the start of the next line. -/
def takeBreak? (c : Cursor) : Option (Char × Cursor) :=
  match c.rest with
  | '\r' :: '\n' :: _ => some ('\n', c.nextLine 2)
  | b :: _ => if isBreak b then some (breakValue b, c.nextLine 1) else none
  | [] => none

def takeWhile (wanted : Char → Bool) (c : Cursor) : List Char × Cursor :=
  let taken := c.rest.takeWhile fun x => wanted x && !isBreak x
  (taken, c.advance taken.length)

def skipWhile (wanted : Char → Bool) (c : Cursor) : Cursor :=
  (c.takeWhile wanted).2

def next? (c : Cursor) : Option Char :=
  c.rest.head?

/-- Skips a comment up to the line end. -/
def skipComment (c : Cursor) : Cursor :=
  if c.next? = some '#' then c.skipWhile fun _ => true else c

/-- The start of the next line, where nothing but blanks and a comment is left of this one. -/
def endLine? (c : Cursor) : Option Cursor :=
  let c := (c.skipWhile isBlank).skipComment
  match c.takeBreak? with
  | some (_, next) => some next
  | none => if c.rest = [] then some c else none

/-- Whether a marker of documents stands here, at the start of a line. -/
def atMarker (c : Cursor) : Bool :=
  c.column = 0 && (isMarker '-' c.rest || isMarker '.' c.rest)

/-- Line ends with the blanks around them, as long as no tab stands before column `least`. -/
def takeBreaks? (least : Nat) : (fuel : Nat) → Cursor → Option (List Char × Cursor)
  | 0, _ => none
  | fuel + 1, c =>
    let (blanks, c') := c.takeWhile isBlank
    if '\t' ∈ blanks.take (least - c.column) then none
    else
      match c'.takeBreak? with
      | none => some ([], c')
      | some (b, next) => do
        let (breaks, next) ← takeBreaks? least fuel next
        some (b :: breaks, next)

end Cursor

/-- What parts two words: blanks in a line, or line ends. -/
structure Gap where
  blanks : List Char := []
  breaks : List Char := []
  deriving DecidableEq, Repr

/-- Of line ends one line feed is a space, and of more the first is dropped if it is a line
feed. -/
def foldBreaks : List Char → List Char
  | ['\n'] => [' ']
  | '\n' :: breaks => breaks
  | breaks => breaks

/-- What a gap is in a scalar. Blanks at line ends do not count. -/
def Gap.text (gap : Gap) : List Char :=
  if gap.breaks = [] then gap.blanks else foldBreaks gap.breaks

def Cursor.takeGap? (least fuel : Nat) (c : Cursor) : Option (Gap × Cursor) :=
  let (blanks, c) := c.takeWhile isBlank
  match c.takeBreak? with
  | none => some ({ blanks }, c)
  | some (b, next) => do
    let (breaks, next) ← next.takeBreaks? least fuel
    some ({ breaks := b :: breaks }, next)

end TemplateEngine.Yaml
