import TemplateEngine.Yaml.Cursor
import TemplateEngine.Yaml.Digits

/-! # Names, tags and directives

A node can have an anchor, by which others refer to it, and a tag, which says what kind of value it
has. A tag is named by an address; directives declare handles for the beginnings of addresses. -/

namespace TemplateEngine.Yaml

/-- A name after an anchor's or a reference's sign, with what may end it after it. -/
def takeName? (c : Cursor) : Option (String × Cursor) :=
  let (name, c) := c.takeWhile isNameChar
  if name ≠ [] ∧
      (endsWord c.rest ∨ c.next?.any (· ∈ ['?', ':', ',', ']', '\x7d', '%', '@', '\x60']))
  then some (String.ofList name, c) else none

/-- The byte in two hexadecimal digits after a percent sign. -/
def percentByte? : List Char → Option Nat
  | '%' :: a :: b :: _ => natIn? 16 [a, b]
  | _ => none

/-- The number of bytes of a character that starts with a byte. -/
def encodedLength? (lead : Nat) : Option Nat :=
  if lead < 0x80 then some 1
  else if 0xC0 ≤ lead ∧ lead < 0xE0 then some 2
  else if 0xE0 ≤ lead ∧ lead < 0xF0 then some 3
  else if 0xF0 ≤ lead ∧ lead < 0xF8 then some 4
  else none

/-- Bytes that go on with a character. -/
def takeTrailing? : (count : Nat) → Cursor → Option (List UInt8 × Cursor)
  | 0, c => some ([], c)
  | count + 1, c => do
    let byte ← percentByte? c.rest
    if 0x80 ≤ byte ∧ byte < 0xC0 then
      let (bytes, c) ← takeTrailing? count (c.advance 3)
      some (byte.toUInt8 :: bytes, c)
    else none

/-- The bytes of one character after percent signs. -/
def takeEscaped? (c : Cursor) : Option (List UInt8 × Cursor) := do
  let lead ← percentByte? c.rest
  let length ← encodedLength? lead
  let (bytes, c) ← takeTrailing? (length - 1) (c.advance 3)
  some (lead.toUInt8 :: bytes, c)

/-- The part of an address at a place, which may be empty. Only where it stands for itself may it
hold commas and square brackets. -/
def takeAddress? (verbatim : Bool) : (fuel : Nat) → Cursor → Option (List UInt8 × Cursor)
  | 0, _ => none
  | fuel + 1, c =>
    match c.next? with
    | some '%' => do
      let (bytes, c) ← takeEscaped? c
      let (more, c) ← takeAddress? verbatim fuel c
      some (bytes ++ more, c)
    | some x =>
      if isAddressChar x || verbatim && x ∈ [',', '[', ']'] then do
        let (more, c) ← takeAddress? verbatim fuel (c.advance 1)
        some (x.toNat.toUInt8 :: more, c)
      else some ([], c)
    | none => some ([], c)

/-- A handle: an exclamation mark, or a name between two of them. What is no handle is the start of
an address. -/
def takeHandle? (c : Cursor) : Option (String × Cursor) :=
  if c.next? = some '!' then
    let (name, c) := (c.advance 1).takeWhile isNameChar
    if c.next? = some '!' then some (String.ofList ('!' :: name ++ ['!']), c.advance 1)
    else some (String.ofList ('!' :: name), c)
  else none

/-- A tag as it is written: a handle, which is empty before a whole address, and the rest of the
address. -/
structure Tag where
  handle : String
  suffix : ByteArray

def isClosedHandle (handle : String) : Bool :=
  handle ≠ "!" && handle.toList.getLast? = some '!'

/-- The tag at a place. A lone exclamation mark is a whole address. -/
def takeTag? (fuel : Nat) (c : Cursor) : Option (Tag × Cursor) :=
  match c.rest with
  | '!' :: '<' :: _ => do
    let (address, c) ← takeAddress? true fuel (c.advance 2)
    if address ≠ [] ∧ c.next? = some '>' then some (⟨"", ⟨address.toArray⟩⟩, c.advance 1) else none
  | _ => do
    let (handle, c) ← takeHandle? c
    let (address, c) ← takeAddress? false fuel c
    let suffix : ByteArray := ⟨address.toArray⟩
    if isClosedHandle handle then if address = [] then none else some (⟨handle, suffix⟩, c)
    else if handle = "!" ∧ address = [] then some (⟨"", "!".toUTF8⟩, c)
    else some (⟨"!", (handle.drop 1).toString.toUTF8 ++ suffix⟩, c)

/-- Whether a tag may end before this text. -/
def endsTag (flow : Bool) (s : List Char) : Bool :=
  endsWord s || flow && s.head? = some ','

/-- The beginning of addresses that a handle stands for. -/
structure Declaration where
  handle : String
  start : ByteArray

/-- A line before a document: the version of the language, or a declaration. -/
inductive Directive where
  | version
  | declaration (declaration : Declaration)

/-- A number of at most nine digits. -/
def takeNumber? (c : Cursor) : Option (Nat × Cursor) := do
  let (digits, c) := c.takeWhile Char.isDigit
  if digits.length ≤ 9 then some (← natIn? 10 digits, c) else none

/-- The versions of the language that are understood are 1.1 and 1.2. -/
def takeVersion? (c : Cursor) : Option (Directive × Cursor) := do
  let (major, c) ← takeNumber? c
  if c.next? = some '.' then
    let (minor, c) ← takeNumber? (c.advance 1)
    if major = 1 ∧ (minor = 1 ∨ minor = 2) then some (.version, c) else none
  else none

def takeDeclaration? (fuel : Nat) (c : Cursor) : Option (Directive × Cursor) := do
  let (handle, c) ← takeHandle? c
  if (handle = "!" ∨ isClosedHandle handle) ∧ c.next?.any isBlank then
    let (address, c) ← takeAddress? true fuel (c.skipWhile isBlank)
    if address ≠ [] ∧ endsWord c.rest then
      some (.declaration ⟨handle, ⟨address.toArray⟩⟩, c)
    else none
  else none

/-- The directive after its percent sign, with its line. -/
def takeDirective? (fuel : Nat) (c : Cursor) : Option (Directive × Cursor) := do
  let (name, c) := c.takeWhile isNameChar
  if !endsWord c.rest then none
  else
    let c := c.skipWhile isBlank
    let (directive, c) ←
      if name = "YAML".toList then takeVersion? c
      else if name = "TAG".toList then takeDeclaration? fuel c
      else none
    some (directive, ← c.endLine?)

end TemplateEngine.Yaml
