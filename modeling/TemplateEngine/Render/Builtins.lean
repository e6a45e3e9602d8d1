import TemplateEngine.Render.Callback
import TemplateEngine.Unicode.Case
import TemplateEngine.Unicode.WhiteSpace

/-! # Callbacks of the command line

Filters that change the displayed text of a value, and a function that joins the displayed texts of
its arguments. -/

namespace TemplateEngine

def Filter.ofText (change : String → String) : Filter := fun value =>
  .ok (.string (change value.display))

/-- Joins its arguments, without names in the order of the call. -/
def concat : Function := fun args =>
  .ok (.string (String.join (args.values.map Value.display)))

def Registry.addBuiltins (registry : Registry) : Registry :=
  registry
    |>.addFilter "upper" (.ofText Unicode.uppercase)
    |>.addFilter "lower" (.ofText Unicode.lowercase)
    |>.addFilter "trim" (.ofText Unicode.trim)
    |>.addFunction "concat" concat

end TemplateEngine
