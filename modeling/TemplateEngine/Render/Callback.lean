import TemplateEngine.Value.Basic

/-! # Callbacks of the host

A filter takes the value piped into it, a function the arguments of its call. Either gives a value
or the text of an error. -/

namespace TemplateEngine

inductive Arguments where
  /-- A single argument without name. -/
  | scalar (value : Value)
  /-- None or several arguments without names. -/
  | list (values : List Value)
  /-- Arguments of which one at least has a name. Those without have their index as key. -/
  | named (entries : Dict Value)

namespace Arguments

def length : Arguments → Nat
  | .scalar _ => 1
  | .list values => values.length
  | .named entries => entries.length

def isEmpty (args : Arguments) : Bool :=
  args.length = 0

/-- All values, in the order of the call or else of the names. -/
def values : Arguments → List Value
  | .scalar value => [value]
  | .list values => values
  | .named entries => Dict.values entries

/-- The first value, or null if there is none. -/
def single (args : Arguments) : Value :=
  args.values.head?.getD .null

end Arguments

abbrev Filter := Value → Except String Value

abbrev Function := Arguments → Except String Value

def Filter.toFunction (filter : Filter) : Function := fun args =>
  filter args.single

structure Registry where
  filters : Dict Filter := []
  functions : Dict Function := []

namespace Registry

def filter? (registry : Registry) (name : String) : Option Filter :=
  Dict.find? registry.filters name

def function? (registry : Registry) (name : String) : Option Function :=
  Dict.find? registry.functions name

def addFilter (registry : Registry) (name : String) (filter : Filter) : Registry :=
  { registry with filters := Dict.insert name filter registry.filters }

def addFunction (registry : Registry) (name : String) (function : Function) : Registry :=
  { registry with functions := Dict.insert name function registry.functions }

/-- What a call with `count` arguments calls: the function of that name, or else the filter if there
is one argument. -/
def resolve? (registry : Registry) (name : String) (count : Nat) : Option Function :=
  match registry.function? name with
  | some function => some function
  | none => if count = 1 then (registry.filter? name).map Filter.toFunction else none

end Registry

end TemplateEngine
