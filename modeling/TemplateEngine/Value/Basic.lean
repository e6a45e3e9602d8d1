import TemplateEngine.Dict
import TemplateEngine.Json.Writer
import TemplateEngine.Value.Number

/-! # Values

The values that templates work on: what the host hands in, what expressions evaluate to and what is
written. The fields of an object form a dictionary. -/

namespace TemplateEngine

inductive Value where
  | null
  | bool (value : Bool)
  | number (value : Number)
  | string (text : String)
  | array (items : List Value)
  | object (fields : List (String × Value))

namespace Value

def ofInt (n : Int) : Value :=
  .number (.int n)

mutual

/-- The value of a document in which arrays and objects nest at most `limit` deep. Of fields with
one key the last counts. -/
def ofJson? (limit : Nat) : Json → Option Value
  | .null => some .null
  | .bool b => some (.bool b)
  | .number numeral => (Number.ofNumeral? numeral).map .number
  | .string text => text.map .string
  | .array items =>
    if limit = 0 then none else (ofItems? (limit - 1) items).map .array
  | .object fields =>
    if limit = 0 then none
    else (ofFields? (limit - 1) fields).map fun entries => .object (Dict.ofEntries entries)

def ofItems? (limit : Nat) : List Json → Option (List Value)
  | [] => some []
  | item :: items => do
    let value ← ofJson? limit item
    let values ← ofItems? limit items
    some (value :: values)

def ofFields? (limit : Nat) : List (Option String × Json) → Option (List (String × Value))
  | [] => some []
  | (key, item) :: fields => do
    let key ← key
    let value ← ofJson? limit item
    let entries ← ofFields? limit fields
    some ((key, value) :: entries)

end

mutual

def toJson : Value → Json
  | .null => .null
  | .bool b => .bool b
  | .number n => .number n.toNumeral
  | .string text => .string (some text)
  | .array items => .array (toItems items)
  | .object fields => .object (toFields fields)

def toItems : List Value → List Json
  | [] => []
  | value :: values => toJson value :: toItems values

def toFields : List (String × Value) → List (Option String × Json)
  | [] => []
  | (key, value) :: fields => (some key, toJson value) :: toFields fields

end

def text (value : Value) : String :=
  value.toJson.toCompact

/-- How a value appears in the output: a string as it is, null as nothing, all else as JSON. -/
def display : Value → String
  | .string text => text
  | .null => ""
  | value => value.text

/-- Only `true` and non-empty strings count as true. -/
def isTruthy : Value → Bool
  | .bool b => b
  | .string text => text != ""
  | _ => false

def typeName : Value → String
  | .null => "null"
  | .bool _ => "boolean"
  | .number _ => "number"
  | .string _ => "string"
  | .array _ => "array"
  | .object _ => "object"

end Value

end TemplateEngine
