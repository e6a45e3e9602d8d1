/-! # Dictionaries

A dictionary is the list of its entries in strictly increasing order of keys. Strings are ordered
by their code points, which is also the order of their bytes. -/

namespace TemplateEngine

universe u

abbrev Dict (α : Type u) := List (String × α)

namespace Dict

variable {α : Type u}

def find? : Dict α → String → Option α
  | [], _ => none
  | (k, v) :: entries, key => if k = key then some v else find? entries key

/-- The dictionary with `value` under `key`, in place of what stood there. -/
def insert (key : String) (value : α) : Dict α → Dict α
  | [] => [(key, value)]
  | (k, v) :: entries =>
    if key = k then (key, value) :: entries
    else if key < k then (key, value) :: (k, v) :: entries
    else (k, v) :: insert key value entries

/-- Of several entries under one key the last stays. -/
def ofEntries (entries : List (String × α)) : Dict α :=
  entries.foldl (fun dict entry => insert entry.1 entry.2 dict) []

def keys (dict : Dict α) : List String :=
  dict.map Prod.fst

def values (dict : Dict α) : List α :=
  dict.map Prod.snd

def contains (dict : Dict α) (key : String) : Bool :=
  (find? dict key).isSome

/-- The order of entries that every dictionary keeps. -/
def Sorted (dict : Dict α) : Prop :=
  dict.Pairwise fun a b => a.1 < b.1

end Dict

end TemplateEngine
