import TemplateEngine.Proofs.Render.Scoping

/-! # Loops are unrolled

A loop does what its body does when it is run for one value after another, each time in a frame of
its own. The values are fixed before the body runs for the first time. -/

namespace TemplateEngine

/-- The entry of an object as a loop sees it. -/
def Value.ofEntry (entry : String × Value) : Value :=
  .object [("key", .string entry.1), ("value", entry.2)]

inductive Value.Iterates : Value → List Value → Prop
  | array {values : List Value} : Iterates (.array values) values
  | object {fields : Dict Value} : Iterates (.object fields) (fields.map Value.ofEntry)
  | null : Iterates .null []

/-- All iterations of a loop over values: each value once, in order. -/
def Iteration.ofValues (item : String) (values : List Value) : List Iteration :=
  values.zipIdx.map fun (value, index) => ⟨item, value, index, values.length⟩

theorem Iteration.getElem?_ofValues (item : String) (values : List Value) (index : Nat) :
    (ofValues item values)[index]? =
      values[index]?.map fun value => ⟨item, value, index, values.length⟩ := by
  simp [ofValues, List.getElem?_zipIdx]
  rfl

theorem Value.items_of_iterates {value : Value} {values : List Value} (h : value.Iterates values)
    (item : String) : value.items item = .ok values := by
  cases h <;> rfl

theorem Value.items_of_not_iterates {value : Value} (h : ∀ values, ¬value.Iterates values)
    (item : String) : value.items item = .error (.notIterable item value.typeName) := by
  cases value with
  | array values => exact absurd .array (h values)
  | object fields => exact absurd .object (h _)
  | null => exact absurd .null (h [])
  | _ => rfl

def Context.inIteration (context : Context) (assigned : Dict Value) (iteration : Iteration) :
    Context :=
  { context with assigned, frames := iteration.frame :: context.frames }

section

variable {σ : Type} (sink : Sink σ)

/-- Nodes are run in each iteration, in a frame of its own and with the assignments and the sink
that the iterations before have left, up to the first in which they fail. -/
inductive Unrolls (body : List Node) (context : Context) :
    List Iteration → Dict Value → σ → Outcome σ → Prop
  | done {assigned : Dict Value} {out : σ} :
      Unrolls body context [] assigned out ⟨.ok (), { context with assigned }, out⟩
  | next {iteration : Iteration} {todo : List Iteration} {assigned assigned' : Dict Value}
      {out out' : σ} {outcome : Outcome σ}
      (hbody : evaluateAll sink body (context.inIteration assigned iteration) out =
        ⟨.ok (), context.inIteration assigned' iteration, out'⟩)
      (hrest : Unrolls body context todo assigned' out' outcome) :
      Unrolls body context (iteration :: todo) assigned out outcome
  | fails {iteration : Iteration} {todo : List Iteration} {assigned assigned' : Dict Value}
      {out out' : σ} {error : RenderError}
      (hbody : evaluateAll sink body (context.inIteration assigned iteration) out =
        ⟨.error error, context.inIteration assigned' iteration, out'⟩) :
      Unrolls body context (iteration :: todo) assigned out
        ⟨.error error, { context with assigned := assigned' }, out'⟩

variable {sink} {body : List Node} {context : Context}

theorem Unrolls.unique {iterations : List Iteration} {assigned : Dict Value} {out : σ}
    {outcome other : Outcome σ} (h : Unrolls sink body context iterations assigned out outcome)
    (h' : Unrolls sink body context iterations assigned out other) : outcome = other := by
  induction h with
  | done =>
    cases h'
    rfl
  | next hbody _ ih =>
    cases h' with
    | next hbody' hrest' =>
      cases hbody.symm.trans hbody'
      exact ih hrest'
    | fails hbody' => cases hbody.symm.trans hbody'
  | fails hbody =>
    cases h' with
    | next hbody' _ => cases hbody.symm.trans hbody'
    | fails hbody' =>
      cases hbody.symm.trans hbody'
      rfl

variable (sink)

/-- Running nodes in a frame leaves the context in that frame with other assignments. -/
theorem evaluateAll_inIteration (body : List Node) (context : Context) (assigned : Dict Value)
    (iteration : Iteration) (out : σ) :
    ∃ result assigned' out', evaluateAll sink body (context.inIteration assigned iteration) out =
      ⟨result, context.inIteration assigned' iteration, out'⟩ := by
  have hkeeps := evaluateAll_keeps sink body (context.inIteration assigned iteration) out
  generalize evaluateAll sink body (context.inIteration assigned iteration) out = outcome at hkeeps
  obtain ⟨result, context', out'⟩ := outcome
  exact ⟨result, context'.assigned, out', congrArg (Outcome.mk result · out') hkeeps⟩

/-- The iterations of a loop run one after another are its unrolling. -/
theorem unrolls_sequence (body : List Node) (context : Context) (iterations : List Iteration)
    (assigned : Dict Value) (out : σ) :
    Unrolls sink body context iterations assigned out
      (Action.sequence (iterations.map fun iteration =>
          Action.inFrame iteration.frame (evaluateWithin sink context.room body))
        { context with assigned } out) := by
  induction iterations generalizing assigned out with
  | nil => exact .done
  | cons iteration iterations ih =>
    obtain ⟨result, assigned', out', hbody⟩ :=
      evaluateAll_inIteration sink body context assigned iteration out
    have hframe : Action.inFrame iteration.frame (evaluateWithin sink context.room body)
        { context with assigned } out = ⟨result, { context with assigned := assigned' }, out'⟩ :=
      congrArg (fun outcome : Outcome σ =>
        { outcome with context := outcome.context.popFrame }) hbody
    rw [List.map_cons, Action.sequence]
    cases result with
    | ok _ =>
      rw [Action.andThen_of_ok hframe]
      exact .next hbody (ih assigned' out')
    | error error =>
      unfold Action.andThen
      rw [hframe]
      exact .fails hbody

/-- A loop runs its body where it stands, as deep as includes and overrides may nest there. -/
theorem evaluate_loop (item : String) (iterable : Expr) (body : List Node) (context : Context)
    (out : σ) :
    evaluate sink (.statement (.loop item iterable body)) context out =
      Action.loop item iterable (evaluateWithin sink context.room body) context out := by
  obtain ⟨expand, hexpand⟩ := evaluateWithin_eq_evaluateNodes sink context.room
  rw [evaluate, hexpand, hexpand, evaluateNodes_singleton]
  rfl

theorem evaluate_loop_of_iterates {item : String} {iterable : Expr} {value : Value}
    {values : List Value} {context : Context} (hvalue : context.eval iterable = .ok value)
    (hvalues : value.Iterates values) (body : List Node) (out : σ) (outcome : Outcome σ) :
    evaluate sink (.statement (.loop item iterable body)) context out = outcome ↔
      Unrolls sink body context (Iteration.ofValues item values) context.assigned out
        outcome := by
  have hunrolls := unrolls_sequence sink body context (Iteration.ofValues item values)
    context.assigned out
  have hloop : evaluate sink (.statement (.loop item iterable body)) context out =
      Action.sequence ((Iteration.ofValues item values).map fun iteration =>
        Action.inFrame iteration.frame (evaluateWithin sink context.room body)) context out := by
    rw [evaluate_loop, Action.loop, Action.withValue, hvalue, ok_bind,
      Value.items_of_iterates hvalues, Iteration.ofValues, List.map_map]
    rfl
  rw [hloop]
  exact ⟨fun h => h ▸ hunrolls, fun h => hunrolls.unique h⟩

/-- Whatever nodes do inside an iteration, its bindings are there after them. -/
theorem lookup?_evaluateAll {iteration : Iteration} {place : Context}
    (hframe : place.frames.head? = some iteration.frame) {name : String}
    (hname : (iteration.binding? name).isSome) (nodes : List Node) (out : σ) :
    (evaluateAll sink nodes place out).context.lookup? name = iteration.binding? name := by
  obtain ⟨frames, hframes⟩ := List.head?_eq_some_iff.mp hframe
  obtain ⟨value, hvalue⟩ := Option.isSome_iff_exists.mp hname
  rw [evaluateAll_keeps, Context.lookup?, Context.findIn?, hframes, List.cons_append,
    List.findSome?_cons, iteration.find?_frame, hvalue]

/-- A loop is its unrolling. Its body runs for each value that the iterable has when the loop
starts, in order and once, until it fails, and each time in a frame that binds the variable and the
data of the loop, which hides a variable named `loop`. The entries of an object come in the order
of their keys. A value that cannot be gone through fails before anything is written. What runs
inside an iteration, other loops for instance, leaves its bindings as they are. -/
theorem evaluate_loop_unrolls (item : String) (iterable : Expr) (body : List Node)
    (context : Context) (out : σ) :
    let loop := Node.statement (.loop item iterable body)
    (∀ value values, context.eval iterable = .ok value → value.Iterates values → ∀ outcome,
      evaluate sink loop context out = outcome ↔
        Unrolls sink body context (Iteration.ofValues item values) context.assigned out outcome) ∧
    (∀ entries, context.eval iterable = .ok (.object (Dict.ofEntries entries)) →
      ∃ fields : Dict Value, fields.Sorted ∧
        (∀ key value, (key, value) ∈ fields ↔ entries.reverse.lookup key = some value) ∧
        ∀ outcome, evaluate sink loop context out = outcome ↔
          Unrolls sink body context (Iteration.ofValues item (fields.map Value.ofEntry))
            context.assigned out outcome) ∧
    (∀ value, context.eval iterable = .ok value → (∀ values, ¬value.Iterates values) →
      evaluate sink loop context out =
        ⟨.error (.notIterable item value.typeName), context, out⟩) ∧
    (∀ values index value, values[index]? = some value → ∃ iteration,
      (Iteration.ofValues item values)[index]? = some iteration ∧
        ∀ name, Dict.find? iteration.frame name =
          if name = "loop" then some (loopData index values.length)
          else if name = item then some value else none) ∧
    ∀ (iteration : Iteration) (place : Context), place.frames.head? = some iteration.frame →
      ∀ (nodes : List Node) (written : σ) (name : String), (iteration.binding? name).isSome →
        (evaluateAll sink nodes place written).context.lookup? name = iteration.binding? name := by
  intro loop
  refine ⟨fun value values hvalue hvalues => evaluate_loop_of_iterates sink hvalue hvalues body out,
    fun entries hvalue => ?_, fun value hvalue hvalues => ?_, fun values index value hindex => ?_,
    fun iteration place hframe nodes written name hname =>
      lookup?_evaluateAll sink hframe hname nodes written⟩
  · have hsorted := Dict.sorted_ofEntries entries
    refine ⟨Dict.ofEntries entries, hsorted, fun key value => ?_,
      evaluate_loop_of_iterates sink hvalue .object body out⟩
    rw [← hsorted.find?_eq_some_iff, ← Dict.find?_ofEntries_reverse, List.reverse_reverse]
  · rw [evaluate_loop, Action.loop, Action.withValue, hvalue, ok_bind,
      Value.items_of_not_iterates hvalues]
    rfl
  · refine ⟨⟨item, value, index, values.length⟩, ?_, fun name => Iteration.find?_frame _ name⟩
    rw [Iteration.getElem?_ofValues, hindex]
    rfl

end

/-- A row is gone through cell by cell with the variable of the loop around, and the name of the
rows is assigned to. -/
def rowBody : List Node :=
  [.statement (.assign "rows" (.content "")),
    .statement (.loop "x" (.var "x") [.display (.var "x")]),
    .display (.selector (.var "loop") (.var "last"))]

def rows : List Value :=
  [.array [.string "a", .string "b"], .array [.string "c"]]

def rowsContext : Context where
  data := [("rows", .array rows), ("sizes", .object (Dict.ofEntries [("w", .null), ("h", .null)])),
    ("title", .string "Tea")]
  blocks := []
  registry := {}
  store := {}
  entry := "table"

theorem evaluate_loop_unrolls_rows :
    Unrolls Sink.text rowBody rowsContext (Iteration.ofValues "x" rows) [] ""
        ⟨.ok (), { rowsContext with assigned := [("rows", .string "")] }, "abfalsectrue"⟩ ∧
      (∃ fields : Dict Value, fields.Sorted ∧ ("h", .null) ∈ fields) ∧
      evaluate Sink.text (.statement (.loop "x" (.var "title") rowBody)) rowsContext "" =
        ⟨.error (.notIterable "x" "string"), rowsContext, ""⟩ ∧
      ∃ iteration, (Iteration.ofValues "x" rows)[1]? = some iteration ∧
        (evaluateAll Sink.text rowBody (rowsContext.inIteration [] iteration) "").context.lookup?
          "x" = some (.array [.string "c"]) := by
  have hrows := evaluate_loop_unrolls Sink.text "x" (.var "rows") rowBody rowsContext ""
  have hsizes := evaluate_loop_unrolls Sink.text "x" (.var "sizes") rowBody rowsContext ""
  have htitle := evaluate_loop_unrolls Sink.text "x" (.var "title") rowBody rowsContext ""
  obtain ⟨fields, hsorted, hfields, -⟩ := hsizes.2.1 [("w", .null), ("h", .null)] rfl
  obtain ⟨iteration, hiteration, -⟩ := hrows.2.2.2.1 rows 1 (.array [.string "c"]) rfl
  have hbinding : iteration.binding? "x" = some (.array [.string "c"]) := by
    obtain rfl := Option.some.inj hiteration
    rfl
  refine ⟨(hrows.1 (.array rows) rows rfl .array _).mp rfl,
    ⟨fields, hsorted, (hfields "h" .null).mpr rfl⟩, htitle.2.2.1 (.string "Tea") rfl nofun,
    iteration, hiteration, ?_⟩
  rw [hrows.2.2.2.2 iteration (rowsContext.inIteration [] iteration) rfl rowBody "" "x"
    (by rw [hbinding]; rfl), hbinding]

end TemplateEngine
