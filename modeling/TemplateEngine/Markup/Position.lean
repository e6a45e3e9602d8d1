/-! # Positions

Lines and columns count from one, and columns count characters. A line ends with its line feed. -/

namespace TemplateEngine

structure Position where
  line : Nat
  column : Nat
  deriving DecidableEq, Repr

namespace Position

def start : Position := ⟨1, 1⟩

def advance (position : Position) (c : Char) : Position :=
  if c = '\n' then ⟨position.line + 1, 1⟩ else ⟨position.line, position.column + 1⟩

/-- The position just after a text. -/
def after (text : List Char) : Position :=
  text.foldl advance start

/-- The position in a text at which `rest` is still to come. -/
def before (text rest : List Char) : Position :=
  after (text.take (text.length - rest.length))

/-- The characters that take up the first `offset` bytes, unless the offset is past the end or
inside a character. -/
def takeBytes? : (text : List Char) → (offset : Nat) → Option (List Char)
  | _, 0 => some []
  | [], _ + 1 => none
  | c :: text, offset + 1 =>
    if c.utf8Size ≤ offset + 1 then (takeBytes? text (offset + 1 - c.utf8Size)).map (c :: ·)
    else none

def locate? (source : String) (offset : Nat) : Option Position :=
  (takeBytes? source.toList offset).map after

def text (position : Position) : String :=
  position.line.repr ++ ":" ++ position.column.repr

end Position

end TemplateEngine
