import TemplateEngine.Json.Basic

/-! # Writing JSON

A document is written without blanks, or over several lines with two blanks for each level. -/

namespace TemplateEngine

def Numeral.write (n : Numeral) : List Char :=
  (if n.negative then ['-'] else []) ++ n.whole ++
    (if n.fraction = [] then [] else '.' :: n.fraction) ++
    match n.exponent with
    | none => []
    | some (negative, digits) => 'e' :: (if negative then '-' else '+') :: digits

namespace Json

def hexDigit (n : Nat) : Char :=
  if n < 10 then Char.ofNat ('0'.toNat + n) else Char.ofNat ('a'.toNat + (n - 10))

/-- Quotes, backslashes and control characters are escaped, all else stands for itself. -/
def writeChar (c : Char) : List Char :=
  if c = '"' then ['\\', '"']
  else if c = '\\' then ['\\', '\\']
  else if c = '\x08' then ['\\', 'b']
  else if c = '\x0c' then ['\\', 'f']
  else if c = '\n' then ['\\', 'n']
  else if c = '\r' then ['\\', 'r']
  else if c = '\t' then ['\\', 't']
  else if c.toNat < 0x20 then
    ['\\', 'u', '0', '0', hexDigit (c.toNat / 16), hexDigit (c.toNat % 16)]
  else [c]

def writeString (text : String) : List Char :=
  '"' :: text.toList.flatMap writeChar ++ ['"']

/-- A string that cannot be read is written as an empty one. -/
def writeText (text : Option String) : List Char :=
  writeString (text.getD "")

mutual

/-- The document without blanks. -/
def compact : Json → List Char
  | .null => ['n', 'u', 'l', 'l']
  | .bool true => ['t', 'r', 'u', 'e']
  | .bool false => ['f', 'a', 'l', 's', 'e']
  | .number numeral => numeral.write
  | .string text => writeText text
  | .array items => '[' :: compactItems items ++ [']']
  | .object fields => '\x7b' :: compactFields fields ++ ['\x7d']

def compactItems : List Json → List Char
  | [] => []
  | [item] => compact item
  | item :: items => compact item ++ ',' :: compactItems items

def compactFields : List (Option String × Json) → List Char
  | [] => []
  | [(key, value)] => writeText key ++ ':' :: compact value
  | (key, value) :: fields => writeText key ++ ':' :: compact value ++ ',' :: compactFields fields

end

/-- The start of a line at a level. -/
def newLine (level : Nat) : List Char :=
  '\n' :: List.replicate (2 * level) ' '

mutual

/-- The document with every item and every field on a line of its own. -/
def pretty (level : Nat) : Json → List Char
  | .array [] => ['[', ']']
  | .array items => '[' :: prettyItems (level + 1) items ++ newLine level ++ [']']
  | .object [] => ['\x7b', '\x7d']
  | .object fields => '\x7b' :: prettyFields (level + 1) fields ++ newLine level ++ ['\x7d']
  | json => compact json

def prettyItems (level : Nat) : List Json → List Char
  | [] => []
  | [item] => newLine level ++ pretty level item
  | item :: items => newLine level ++ pretty level item ++ ',' :: prettyItems level items

def prettyFields (level : Nat) : List (Option String × Json) → List Char
  | [] => []
  | [(key, value)] => newLine level ++ writeText key ++ ':' :: ' ' :: pretty level value
  | (key, value) :: fields =>
    newLine level ++ writeText key ++ ':' :: ' ' :: pretty level value ++ ',' ::
      prettyFields level fields

end

def toCompact (json : Json) : String :=
  String.ofList json.compact

def toPretty (json : Json) : String :=
  String.ofList (json.pretty 0)

end Json

end TemplateEngine
