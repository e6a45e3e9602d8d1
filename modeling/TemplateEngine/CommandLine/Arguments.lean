import TemplateEngine.Render.Store
import TemplateEngine.Value.Number

/-! # Arguments of the command line

A command has options, each with a value after it or glued to it, and files. What is no command is
a mistake in usage. -/

namespace TemplateEngine.CommandLine

structure OptionSpec where
  long : List String
  short : Option Char := none

/-- An argument as its place in the list of options and the value, or as a file. -/
inductive Word where
  | option (long : String) (value : String)
  | file (path : String)
  deriving DecidableEq, Repr

/-- A value may not look like an option. -/
def isValue (arg : String) : Bool :=
  arg = "-" || arg.toList.head? ≠ some '-'

def findLong? (specs : List OptionSpec) (name : String) : Option OptionSpec :=
  specs.find? fun spec => spec.long.contains name

def findShort? (specs : List OptionSpec) (name : Char) : Option OptionSpec :=
  specs.find? fun spec => spec.short = some name

def OptionSpec.name (spec : OptionSpec) : String :=
  spec.long.headD ""

/-- The value in what is glued to a short option: an equals sign in front does not count. -/
def gluedValue : List Char → String
  | '=' :: value => String.ofList value
  | value => String.ofList value

/-- Splits `--name=value` after its two hyphens. -/
def splitLong (arg : List Char) : String × Option String :=
  match arg.dropWhile (· ≠ '=') with
  | [] => (String.ofList arg, none)
  | _ :: value => (String.ofList (arg.takeWhile (· ≠ '=')), some (String.ofList value))

/-- The words that arguments make up to a request for help, if there is one. -/
structure Words where
  words : List Word := []
  help : Bool := false
  deriving DecidableEq, Repr

def Words.cons (word : Word) (rest : Words) : Words :=
  { rest with words := word :: rest.words }

/-- Reads arguments, unless there is an unknown option or a missing value. After two hyphens there
are only files, and after a request for help nothing counts. -/
def words? (specs : List OptionSpec) : List String → Option Words
  | [] => some {}
  | arg :: args =>
    match arg.toList with
    | ['-', '-'] => some { words := args.map .file }
    | '-' :: '-' :: long =>
      match splitLong long with
      | ("help", value) => if value.isNone then some { help := true } else none
      | (name, value) => do
        let spec ← findLong? specs name
        match value, args with
        | some value, args => (words? specs args).map (.cons (.option spec.name value))
        | none, value :: args =>
          if isValue value then (words? specs args).map (.cons (.option spec.name value)) else none
        | none, [] => none
    | '-' :: 'h' :: _ => some { help := true }
    | '-' :: short :: glued => do
      let spec ← findShort? specs short
      match glued, args with
      | [], value :: args =>
        if isValue value then (words? specs args).map (.cons (.option spec.name value)) else none
      | [], [] => none
      | glued, args => (words? specs args).map (.cons (.option spec.name (gluedValue glued)))
    | _ => (words? specs args).map (.cons (.file arg))

def valuesOf (words : List Word) (name : String) : List String :=
  words.filterMap fun
    | .option long value => if long = name then some value else none
    | .file _ => none

def filesOf (words : List Word) : List String :=
  words.filterMap fun
    | .option _ _ => none
    | .file path => some path

/-- The value of an option that may be given once. -/
def once? (words : List Word) (name : String) : Option (Option String) :=
  match valuesOf words name with
  | [] => some none
  | [value] => some (some value)
  | _ => none

/-- A number of at most 64 bits. A plus sign may precede it. -/
def number? (text : String) : Option Nat :=
  let digits := match text.toList with
    | '+' :: digits => digits
    | digits => digits
  let n := Number.natOfDigits digits
  if digits ≠ [] ∧ digits.all Char.isDigit ∧ n < Number.wordBound then some n else none

structure RenderOptions where
  templates : List String
  documents : List String
  data : Option String
  name : String
  output : String
  maxIncludeDepth : Nat

structure CompileOptions where
  path : String
  name : Option String
  output : Option String

inductive Command where
  | render (options : RenderOptions)
  | compile (options : CompileOptions)
  | version
  | help

def standardOutput : String := "stdout"

/-- The template that is rendered unless another is named. -/
def defaultName : String := "default"

def renderSpecs : List OptionSpec :=
  [⟨["template"], none⟩, ⟨["template-data", "templateData"], none⟩, ⟨["data"], none⟩,
   ⟨["name"], none⟩, ⟨["output"], some 'o'⟩, ⟨["max-include-depth"], none⟩]

def compileSpecs : List OptionSpec :=
  [⟨["name"], none⟩, ⟨["output"], some 'o'⟩]

/-- A path of a file is not empty. -/
def paths? (paths : List String) : Option (List String) :=
  if "" ∈ paths then none else some paths

/-- A command to render. Options before a request for help must be right as well. -/
def renderCommand? (args : List String) : Option Command := do
  let { words, help } ← words? renderSpecs args
  if filesOf words ≠ [] then none
  else
    let templates ← paths? (valuesOf words "template")
    let data ← once? words "data"
    let _ ← paths? data.toList
    let name ← once? words "name"
    let output ← once? words "output"
    let depth ← once? words "max-include-depth"
    let maxIncludeDepth ← depth.elim (some defaultIncludeDepth) number?
    if help then some .help
    else
      some (.render {
        templates, data, maxIncludeDepth
        documents := valuesOf words "template-data"
        name := name.getD defaultName
        output := output.getD standardOutput })

/-- A command to compile a file. Only with a request for help may the file be absent. -/
def compileCommand? (args : List String) : Option Command := do
  let { words, help } ← words? compileSpecs args
  let files ← paths? (filesOf words)
  let name ← once? words "name"
  let output ← once? words "output"
  let _ ← paths? output.toList
  match files, help with
  | [], true | [_], true => some .help
  | [path], false => some (.compile { path, name, output })
  | _, _ => none

def command? : List String → Option Command
  | [] => none
  | "--version" :: _ => some .version
  | "--help" :: _ => some .help
  | "help" :: about =>
    if about = [] ∨ about ∈ [["render"], ["compile"], ["help"]] then some .help else none
  | "render" :: args => renderCommand? args
  | "compile" :: args => compileCommand? args
  | arg :: _ =>
    match arg.toList with
    | '-' :: 'h' :: _ => some .help
    | '-' :: 'V' :: _ => some .version
    | _ => none

end TemplateEngine.CommandLine
