import TemplateEngine.Json.Basic

/-! # Reading JSON

Every reader takes the characters still to be read and gives what it read with the characters after
it. The text of a document is one value with blanks around it. -/

namespace TemplateEngine.Json

abbrev Reader (α : Type) := List Char → Option (α × List Char)

def isBlank (c : Char) : Bool :=
  c = ' ' || c = '\t' || c = '\n' || c = '\r'

def skipBlanks (s : List Char) : List Char :=
  s.dropWhile isBlank

def readDigits : Reader (List Char) := fun s =>
  match s.takeWhile Char.isDigit with
  | [] => none
  | digits => some (digits, s.dropWhile Char.isDigit)

/-- The digits before the point: a zero stands alone. -/
def readWhole : Reader (List Char) := fun s => do
  let (digits, rest) ← readDigits s
  match digits with
  | '0' :: _ :: _ => none
  | _ => some (digits, rest)

def readFraction : Reader (List Char)
  | '.' :: s => readDigits s
  | s => some ([], s)

/-- The sign of an exponent, which is positive without one. -/
def readSign : List Char → Bool × List Char
  | '-' :: s => (true, s)
  | '+' :: s => (false, s)
  | s => (false, s)

def readExponent : Reader (Option (Bool × List Char)) := fun s =>
  match s with
  | [] => some (none, [])
  | c :: rest =>
    if c = 'e' || c = 'E' then do
      let (negative, rest) := readSign rest
      let (digits, rest) ← readDigits rest
      some (some (negative, digits), rest)
    else some (none, s)

def readNumeral : Reader Numeral := fun s => do
  let (negative, s) := match s with
    | '-' :: rest => (true, rest)
    | _ => (false, s)
  let (whole, s) ← readWhole s
  let (fraction, s) ← readFraction s
  let (exponent, s) ← readExponent s
  some (⟨negative, whole, fraction, exponent⟩, s)

/-- A string is written with characters and with UTF-16 code units. -/
inductive Piece where
  | char (c : Char)
  | unit (code : Nat)
  deriving DecidableEq, Repr

def hexDigit? (c : Char) : Option Nat :=
  if c.isDigit then some (c.toNat - '0'.toNat)
  else if 'a' ≤ c && c ≤ 'f' then some (c.toNat - 'a'.toNat + 10)
  else if 'A' ≤ c && c ≤ 'F' then some (c.toNat - 'A'.toNat + 10)
  else none

/-- What the hexadecimal digits amount to. -/
def hexValue? (digits : List Char) : Option Nat :=
  digits.foldlM (fun code c => (hexDigit? c).map (16 * code + ·)) 0

/-- What a backslash and one more character stand for. -/
def escaped? : Char → Option Char
  | '"' => some '"'
  | '\\' => some '\\'
  | '/' => some '/'
  | 'b' => some '\x08'
  | 'f' => some '\x0c'
  | 'n' => some '\n'
  | 'r' => some '\r'
  | 't' => some '\t'
  | _ => none

/-- The pieces up to the closing quote. -/
def readPieces : Reader (List Piece)
  | [] => none
  | '"' :: rest => some ([], rest)
  | '\\' :: 'u' :: a :: b :: c :: d :: rest => do
    let code ← hexValue? [a, b, c, d]
    let (pieces, rest) ← readPieces rest
    some (.unit code :: pieces, rest)
  | '\\' :: c :: rest => do
    let c ← escaped? c
    let (pieces, rest) ← readPieces rest
    some (.char c :: pieces, rest)
  | c :: rest =>
    if c.toNat < 0x20 || c = '\\' then none
    else do
      let (pieces, rest) ← readPieces rest
      some (.char c :: pieces, rest)

def isHighSurrogate (code : Nat) : Bool :=
  0xD800 ≤ code && code < 0xDC00

def isLowSurrogate (code : Nat) : Bool :=
  0xDC00 ≤ code && code < 0xE000

/-- The characters that the pieces make, unless half of a surrogate pair stands alone. -/
def joinPieces : List Piece → Option (List Char)
  | [] => some []
  | .char c :: pieces => (joinPieces pieces).map (c :: ·)
  | .unit high :: pieces =>
    if isHighSurrogate high then
      match pieces with
      | .unit low :: pieces =>
        if isLowSurrogate low then
          let code := 0x10000 + (high - 0xD800) * 0x400 + (low - 0xDC00)
          (joinPieces pieces).map (Char.ofNat code :: ·)
        else none
      | _ => none
    else if isLowSurrogate high then none
    else (joinPieces pieces).map (Char.ofNat high :: ·)

/-- The rest of a string after its opening quote. -/
def readString : Reader (Option String) := fun s => do
  let (pieces, rest) ← readPieces s
  some ((joinPieces pieces).map String.ofList, rest)

/-- Items separated by commas, up to the closing bracket. At most `fuel` items are read. -/
def readItems (item : Reader Json) : (fuel : Nat) → Reader (List Json)
  | 0, _ => none
  | fuel + 1, s => do
    let (first, s) ← item (skipBlanks s)
    match skipBlanks s with
    | ']' :: s => some ([first], s)
    | ',' :: s => do
      let (items, s) ← readItems item fuel s
      some (first :: items, s)
    | _ => none

def readField (item : Reader Json) : Reader (Option String × Json) := fun s =>
  match skipBlanks s with
  | '"' :: s => do
    let (key, s) ← readString s
    match skipBlanks s with
    | ':' :: s => do
      let (value, s) ← item (skipBlanks s)
      some ((key, value), s)
    | _ => none
  | _ => none

/-- Fields separated by commas, up to the closing brace. At most `fuel` fields are read. -/
def readFields (item : Reader Json) : (fuel : Nat) → Reader (List (Option String × Json))
  | 0, _ => none
  | fuel + 1, s => do
    let (first, s) ← readField item s
    match skipBlanks s with
    | '\x7d' :: s => some ([first], s)
    | ',' :: s => do
      let (fields, s) ← readFields item fuel s
      some (first :: fields, s)
    | _ => none

/-- A value that nests fewer than `depth` arrays and objects. -/
def readValue : (depth : Nat) → Reader Json
  | 0, _ => none
  | _ + 1, 'n' :: 'u' :: 'l' :: 'l' :: s => some (.null, s)
  | _ + 1, 't' :: 'r' :: 'u' :: 'e' :: s => some (.bool true, s)
  | _ + 1, 'f' :: 'a' :: 'l' :: 's' :: 'e' :: s => some (.bool false, s)
  | _ + 1, '"' :: s => do
    let (text, s) ← readString s
    some (.string text, s)
  | depth + 1, '[' :: s =>
    match skipBlanks s with
    | ']' :: s => some (.array [], s)
    | s => do
      let (items, s) ← readItems (readValue depth) s.length s
      some (.array items, s)
  | depth + 1, '\x7b' :: s =>
    match skipBlanks s with
    | '\x7d' :: s => some (.object [], s)
    | s => do
      let (fields, s) ← readFields (readValue depth) s.length s
      some (.object fields, s)
  | _ + 1, s => do
    let (numeral, s) ← readNumeral s
    some (.number numeral, s)

/-- The document that a text holds. A value nests no deeper than its text is long. -/
def read? (text : String) : Option Json := do
  let s := text.toList
  let (json, rest) ← readValue (s.length + 1) (skipBlanks s)
  if skipBlanks rest = [] then some json else none

end TemplateEngine.Json
