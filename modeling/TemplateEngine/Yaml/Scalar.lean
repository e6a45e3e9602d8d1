import TemplateEngine.Value.Basic
import TemplateEngine.Yaml.Digits

/-! # Scalars of YAML

The value of a plain scalar follows from its text: null, a truth value, an integer, a decimal or
else a string. Quoted scalars are strings, and a tag can ask for a value of one kind. -/

namespace TemplateEngine.Yaml

def splitSign : List Char → Bool × List Char
  | '-' :: s => (true, s)
  | '+' :: s => (false, s)
  | s => (false, s)

/-- Digits with a zero in front, which make a string and not a number. -/
def hasLeadingZero (digits : List Char) : Bool :=
  match digits with
  | '0' :: rest => rest ≠ [] && rest.all Char.isDigit
  | _ => false

/-- The bound of integers without sign, `2 ^ 128`. -/
def integerBound : Nat := 0x100000000000000000000000000000000

/-- The bound of integers with sign, `2 ^ 127`. -/
def signedBound : Nat := 0x80000000000000000000000000000000

/-- An integer of at most 128 bits in decimal, or after `0x`, `0o` and `0b` in another base. -/
def integer? (s : List Char) : Option Int := do
  let (negative, digits) := splitSign s
  let n ← match digits with
    | '0' :: 'x' :: digits => natIn? 16 digits
    | '0' :: 'o' :: digits => natIn? 8 digits
    | '0' :: 'b' :: digits => natIn? 2 digits
    | digits => if hasLeadingZero digits then none else natIn? 10 digits
  if negative then if n ≤ signedBound then some (-n) else none
  else if n < integerBound then some n else none

/-- The value of an integer, if it has at most 64 bits. -/
def integerValue? (n : Int) : Option Value :=
  if -Number.signBound ≤ n ∧ n < Number.wordBound then some (.ofInt n) else none

/-- The exponent at the end of a decimal, which may be absent. -/
def exponent? : List Char → Option Int
  | [] => some 0
  | c :: s =>
    if c = 'e' ∨ c = 'E' then do
      let (negative, digits) := splitSign s
      let n ← natIn? 10 digits
      some (if negative then -n else n)
    else none

/-- A decimal number, if it is finite. One side of the point may have no digits. -/
def decimal? (s : List Char) : Option Binary64 := do
  let (negative, s) := splitSign s
  let whole := s.takeWhile Char.isDigit
  let s := s.dropWhile Char.isDigit
  let (fraction, s) := match s with
    | '.' :: s => (s.takeWhile Char.isDigit, s.dropWhile Char.isDigit)
    | s => ([], s)
  let exponent ← exponent? s
  let coefficient ← natIn? 10 (whole ++ fraction)
  Binary64.ofDecimal? negative coefficient (exponent - fraction.length)

def isNull (text : String) : Bool :=
  text ∈ ["~", "null", "Null", "NULL"]

def truth? (text : String) : Option Bool :=
  if text ∈ ["true", "True", "TRUE"] then some true
  else if text ∈ ["false", "False", "FALSE"] then some false
  else none

/-- The numbers that are not finite, which have no value. -/
def isNotFinite (text : String) : Bool :=
  text ∈ [".inf", ".Inf", ".INF", "+.inf", "+.Inf", "+.INF", "-.inf", "-.Inf", "-.INF",
    ".nan", ".NaN", ".NAN"]

/-- A number as a decimal. What is not finite counts as null. -/
def decimalValue? (text : String) : Option Value :=
  if isNotFinite text then some .null
  else (decimal? text.toList).map fun x => .number (.float x)

/-- The value of a plain scalar. An integer of more than 64 bits has none. -/
def plainValue? (text : String) : Option Value :=
  if text = "" ∨ isNull text then some .null
  else
    match truth? text, integer? text.toList with
    | some b, _ => some (.bool b)
    | none, some n => integerValue? n
    | none, none =>
      if hasLeadingZero (splitSign text.toList).2 then some (.string text)
      else some ((decimalValue? text).getD (.string text))

/-- The value of a scalar with a tag. The tags of nulls, truth values, integers and decimals ask for
such a text, and others leave it a string. -/
def taggedValue? (tag text : String) : Option Value :=
  match tag with
  | "tag:yaml.org,2002:null" => if isNull text then some .null else none
  | "tag:yaml.org,2002:bool" => (truth? text).map .bool
  | "tag:yaml.org,2002:int" => (integer? text.toList).bind integerValue?
  | "tag:yaml.org,2002:float" => decimalValue? text
  | _ => some (.string text)

end TemplateEngine.Yaml
