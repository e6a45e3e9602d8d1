import TemplateEngine.Template.Basic

/-! # Stores of templates

A store holds templates by their names and bounds how deep they include one another. -/

namespace TemplateEngine

/-- The greatest length of a chain of includes, the template rendered counted, unless the host
chooses another. -/
def defaultIncludeDepth : Nat := 64

theorem one_le_defaultIncludeDepth : 1 ≤ defaultIncludeDepth :=
  Nat.le_of_ble_eq_true rfl

/-- A chain of includes has one template at least, so that no limit is smaller. -/
@[ext]
structure Store where
  templates : Dict Template := []
  maxIncludeDepth : Nat := defaultIncludeDepth
  one_le_maxIncludeDepth : 1 ≤ maxIncludeDepth := by exact one_le_defaultIncludeDepth

namespace Store

def withMaxIncludeDepth (limit : Nat) : Store :=
  { maxIncludeDepth := max limit 1, one_le_maxIncludeDepth := Nat.le_max_right limit 1 }

/-- Registers a template under its name with the blocks of its tree. -/
def add (store : Store) (template : Template) : Except NodeError Store := do
  let template ← template.scanBlocks
  return { store with templates := Dict.insert template.name template store.templates }

def find? (store : Store) (name : String) : Option Template :=
  Dict.find? store.templates name

def contains (store : Store) (name : String) : Bool :=
  Dict.contains store.templates name

/-- The names of all templates in increasing order. -/
def names (store : Store) : List String :=
  Dict.keys store.templates

def size (store : Store) : Nat :=
  store.templates.length

end Store

end TemplateEngine
