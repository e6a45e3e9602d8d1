import TemplateEngine.Render.Action
import TemplateEngine.Render.Expression

/-! # Evaluation of trees

Nodes write, statements choose what is written, and the first error ends both. An include and an
override continue in a tree that lies elsewhere; how trees elsewhere are evaluated is a parameter,
so that evaluation follows the shape of the tree at hand. -/

namespace TemplateEngine

namespace Value

/-- What a loop over a value goes through: the items of an array, or the entries of an object by
key. -/
def items? : Value → Option (List Value)
  | .array items => some items
  | .object fields =>
    some (fields.map fun (key, value) => .object [("key", .string key), ("value", value)])
  | .null => some []
  | _ => none

def items (value : Value) (loop : String) : Except RenderError (List Value) :=
  match value.items? with
  | some items => .ok items
  | none => .error (.notIterable loop value.typeName)

end Value

/-- What a loop tells its body about the iteration. -/
def loopData (index length : Nat) : Value :=
  .object [("first", .bool (index = 0)), ("index", .ofInt index), ("index1", .ofInt (index + 1)),
    ("last", .bool (index + 1 = length)), ("length", .ofInt length)]

/-- The bindings of one iteration. The data of the loop hides a loop variable named `loop`. -/
def loopFrame (item : String) (value : Value) (index length : Nat) : Dict Value :=
  Dict.insert "loop" (loopData index length) [(item, value)]

namespace Action

variable {σ : Type}

/-- Runs an action once for each value, in a frame of its own. -/
def forEach (item : String) (values : List Value) (body : Action σ) : Action σ :=
  sequence (values.zipIdx.map fun (value, index) =>
    within (fun context => .ok (context.pushFrame (loopFrame item value index values.length)))
      Context.popFrame body)

def includeTemplate (expand : List Node → Action σ) (name : String) : Action σ :=
  withValue (fun context => (context.store.find? name).elim (.error (.unknownTemplate name)) .ok)
    fun template => within (·.enterInclude name) Context.leaveInclude (expand [template.root])

/-- Continues in an override, or else runs the default. -/
def expandYield (expand : List Node → Action σ) (name : String) (default : Action σ) :
    Action σ := fun context out =>
  match context.block? name with
  | some nodes => within (·.enterYield name) Context.leaveYield (expand nodes) context out
  | none => default context out

def assignValue (name : String) (value : Value) : Action σ := fun context out =>
  ⟨.ok (), context.assign name value, out⟩

end Action

section

variable {σ : Type} (sink : Sink σ) (expand : List Node → Action σ)

mutual

def evaluateNode : Node → Action σ
  | .source children => evaluateNodes children
  | .content text => Action.write (sink.writeText text)
  | .comment _ => Action.skip
  | .display expr => Action.withValue (·.eval expr) fun value => Action.write (sink.write value)
  | .statement statement => evaluateStatement statement
  | .inclusion name => Action.includeTemplate expand name
  | .block _ _ => Action.skip

def evaluateNodes : List Node → Action σ
  | [] => Action.skip
  | node :: nodes => (evaluateNode node).andThen (evaluateNodes nodes)

def evaluateStatement : Statement → Action σ
  | .cond cond => evaluateCond cond
  | .yield name default => Action.expandYield expand name (evaluateNodes default)
  | .loop item iterable body =>
    Action.withValue (fun context => do (← context.eval iterable).items item) fun values =>
      Action.forEach item values (evaluateNodes body)
  | .assign name value => Action.withValue (·.eval value) (Action.assignValue name)

def evaluateCond : Cond → Action σ
  | .mk test consequence alternative =>
    Action.withValue (·.eval test) fun value =>
      if value.isTruthy then evaluateNodes consequence else evaluateAlternative alternative

def evaluateAlternative : CondAlternative → Action σ
  | .nothing => Action.skip
  | .elseIf cond => evaluateCond cond
  | .otherwise body => evaluateNodes body

end

end

section

variable {σ : Type} (sink : Sink σ)

/-- Evaluates nodes where includes and overrides nest at most `depth` deep in one another. -/
def evaluateWithin : (depth : Nat) → List Node → Action σ
  | 0, nodes, context, out => evaluateNodes sink (fun _ => Action.fail .endless) nodes context out
  | depth + 1, nodes, context, out =>
    evaluateNodes sink (evaluateWithin depth) nodes context out

/-- Evaluates a node as deep as the guards of the context let includes and overrides nest. -/
def evaluate (node : Node) : Action σ := fun context out =>
  evaluateWithin sink context.room [node] context out

end

namespace Store

variable {σ : Type}

/-- Renders a template. Its blocks stay in force in all templates that it includes. -/
def render (store : Store) (registry : Registry) (sink : Sink σ) (name : String)
    (data : Dict Value) (out : σ) : Except RenderError Unit × σ :=
  match store.find? name with
  | none => (.error (.unknownTemplate name), out)
  | some template =>
    let context : Context := { data, blocks := template.blocks, registry, store, entry := name }
    let outcome := evaluate sink template.root context out
    (outcome.result, outcome.sink)

end Store

end TemplateEngine
