/-! # JSON documents

A document as it is written: fields in their order and repeated where the text repeats them, and
numbers as their digits. -/

namespace TemplateEngine

/-- A number as its digits. No fraction and an empty one are the same. -/
structure Numeral where
  negative : Bool
  whole : List Char
  fraction : List Char
  /-- Whether the exponent is negative, and its digits. -/
  exponent : Option (Bool × List Char)
  deriving DecidableEq, Repr

/-- A string is `none` where an escape in it names one half of a surrogate pair without the other:
such a string can be passed over but not read. -/
inductive Json where
  | null
  | bool (value : Bool)
  | number (numeral : Numeral)
  | string (text : Option String)
  | array (items : List Json)
  | object (fields : List (Option String × Json))

namespace Json

/-- How deep arrays and objects may nest in a document that is decoded. -/
def nestingLimit : Nat := 127

/-- The fields of a record that has fields of these names, `none` where one is absent. A record is
an object, where other fields are passed over and no field of the record stands twice, or the array
of its fields in order, which may end early. -/
def record? (names : List String) : Json → Option (List (Option Json))
  | .object fields =>
    let keys := fields.filterMap Prod.fst
    if keys.length = fields.length ∧ ∀ name ∈ names, keys.count name ≤ 1 then
      some (names.map fun name => fields.lookup (some name))
    else none
  | .array items =>
    if items.length ≤ names.length then
      some (items.map some ++ List.replicate (names.length - items.length) none)
    else none
  | _ => none

def string? : Json → Option String
  | .string text => text
  | _ => none

end Json

end TemplateEngine
