import TemplateEngine.Render.Context

/-! # Values of expressions

Evaluating an expression writes nothing and changes nothing. Filters and functions are looked up
before what they are applied to is evaluated. -/

namespace TemplateEngine

namespace Value

/-- The number of at most 64 bits that a field name is: decimal digits, which a plus sign may
precede. -/
def index? (field : String) : Option Nat :=
  let digits := match field.toList with
    | '+' :: digits => digits
    | digits => digits
  let index := Number.natOfDigits digits
  if digits ≠ [] ∧ digits.all Char.isDigit ∧ index < Number.wordBound then some index else none

/-- The value under a key of an object, or at an index of an array. -/
def field? : Value → String → Option Value
  | .object fields, field => Dict.find? fields field
  | .array items, field => (index? field).bind (items[·]?)
  | _, _ => none

def field (value : Value) (name : String) : Except RenderError Value :=
  match value.field? name with
  | some value => .ok value
  | none => .error (.unknownField name)

/-- Follows an accessor: the name of a field, or the name of a field and an accessor from there. -/
def select (value : Value) : Expr → Except RenderError Value
  | .var name => value.field name
  | .selector (.var name) accessor => do
    let value ← value.field name
    value.select accessor
  | .selector base _ => .error (.notAField base.kind)
  | accessor => .error (.notAnAccessor accessor.kind)

end Value

/-- Arguments with their values. If one has a name they are kept by name, and by index where they
have none. -/
def Arguments.collect (names : List (Option String)) (values : List Value) : Arguments :=
  if names.any Option.isSome then
    .named (Dict.ofEntries ((names.zip values).zipIdx.map fun ((name, value), index) =>
      (name.getD index.repr, value)))
  else
    match values with
    | [value] => .scalar value
    | values => .list values

namespace Context

mutual

def eval (context : Context) : Expr → Except RenderError Value
  | .content text => .ok (.string text)
  | .var name =>
    match context.lookup? name with
    | some value => .ok value
    | none => .error (.unknownVariable name)
  | .selector base accessor => do
    let value ← eval context base
    value.select accessor
  | .filter name input =>
    match context.registry.filter? name with
    | none => .error (.unknownFilter name)
    | some filter => do
      let value ← eval context input
      (filter value).mapError (.filterFailed name)
  | .function name args =>
    match context.registry.resolve? name args.length with
    | none => .error (.unknownFunction name)
    | some function => do
      let values ← evalAll context args
      (function (.collect (args.map Argument.name) values)).mapError (.functionFailed name)

def evalAll (context : Context) : List Argument → Except RenderError (List Value)
  | [] => .ok []
  | arg :: args => do
    let value ← evalArgument context arg
    let values ← evalAll context args
    return value :: values

def evalArgument (context : Context) : Argument → Except RenderError Value
  | .literal _ text => .ok (.string text)
  | .value _ expr => eval context expr

end

def arguments (context : Context) (args : List Argument) : Except RenderError Arguments := do
  let values ← context.evalAll args
  return .collect (args.map Argument.name) values

end Context

end TemplateEngine
