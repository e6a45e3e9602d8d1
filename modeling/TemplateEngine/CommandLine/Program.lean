import TemplateEngine.CommandLine.Arguments
import TemplateEngine.Engine
import TemplateEngine.Files.System
import TemplateEngine.Render.Builtins
import TemplateEngine.Yaml.Reader

/-! # The command line

Renders templates from files, and compiles markup to documents. A command works on files and ends
with a code, what it printed, and what it reported as errors. -/

namespace TemplateEngine.CommandLine

structure Exit where
  code : Nat
  printed : ByteArray
  errors : String

def Exit.output (exit : Exit) : String :=
  (String.fromUTF8? exit.printed).getD ""

/-- A command that failed: its messages from the outermost to the innermost, and what it had
printed before. -/
structure Failure where
  messages : List String
  printed : ByteArray := .empty

def Failure.report (failure : Failure) : String :=
  "error: " ++ String.intercalate ": " failure.messages ++ "\n"

/-- How a program ends after a command that printed something or failed. -/
def Exit.ofResult : Except Failure ByteArray → Exit
  | .ok printed => ⟨0, printed, ""⟩
  | .error failure => ⟨1, failure.printed, failure.report⟩

abbrev Run (m : Type → Type) (α : Type) := ExceptT Failure m α

section

variable {m : Type → Type} [Monad m]

def failWith {α : Type} (messages : List String) : Run m α :=
  throw { messages }

def readText (files : FileSystem m) (path context : String) : Run m String := do
  match ← files.read path with
  | .error error => failWith [context, error.message]
  | .ok bytes =>
    match String.fromUTF8? bytes with
    | some text => return text
    | none => failWith [context, FileError.invalidText.message]

/-- The name of a template in a file: the name of the file without extension. -/
def templateName (path : String) : Run m String :=
  match Path.stem? path with
  | some name => return name
  | none => failWith ["cannot derive a template name from " ++ path]

/-- What an engine is after a registration, whose error is told in a context. -/
def registered (result : Except RenderError Engine) (context : String) : Run m Engine :=
  match result with
  | .ok engine => return engine
  | .error error => failWith (context :: error.messages)

/-- Registers the template in a file: a document by its own name, or else markup. -/
def addTemplateFile (files : FileSystem m) (engine : Engine) (path : String) : Run m Engine := do
  let text ← readText files path ("failed to read template " ++ path)
  if Path.hasExtension path ["json"] then
    registered (engine.addDocument text) ("invalid template document " ++ path)
  else
    let name ← templateName path
    registered (engine.addSource name text) ("invalid template " ++ path)

/-- Registers a document given as argument, the `number`-th of them. -/
def addInlineDocument (engine : Engine) (document : String × Nat) : Run m Engine :=
  registered (engine.addDocument document.1)
    ("invalid --template-data #" ++ (document.2 + 1).repr)

def parseData (path text : String) : Run m Value :=
  if Path.hasExtension path ["yaml", "yml"] then
    match Yaml.read? text with
    | some value => return value
    | none => failWith ["invalid YAML in " ++ path, "not a YAML document"]
  else
    match (Json.read? text).bind (Value.ofJson? Json.nestingLimit) with
    | some value => return value
    | none => failWith ["invalid JSON in " ++ path, "not a JSON document"]

/-- The data of a render. Without a file, or with null in it, there are none. -/
def loadData (files : FileSystem m) : Option String → Run m (Dict Value)
  | none => return []
  | some path => do
    let text ← readText files path ("failed to read data " ++ path)
    match ← parseData path text with
    | .object fields => return fields
    | .null => return []
    | _ => failWith ["data in " ++ path ++ " must be an object at the top level"]

/-- What is printed once a file is written. -/
def savedText (path : String) : String :=
  "✓ saved to " ++ path ++ "\n"

/-- Writes a file and reports where. -/
def save (files : FileSystem m) (path text : String) : Run m ByteArray := do
  match ← files.write path text.toUTF8 with
  | .ok () => return (savedText path).toUTF8
  | .error error => failWith ["failed to write " ++ path, error.message]

def createParent (files : FileSystem m) (path : String) : Run m Unit := do
  match Path.parent? path with
  | none => return
  | some "" => return
  | some parent =>
    match ← files.createDirectories parent with
    | .ok () => return
    | .error error => failWith ["failed to create " ++ parent, error.message]

def loadEngine (files : FileSystem m) (options : RenderOptions) : Run m Engine := do
  let engine := Engine.withConfig ⟨options.maxIncludeDepth⟩
  let engine := { engine with registry := engine.registry.addBuiltins }
  let engine ← options.templates.foldlM (addTemplateFile files) engine
  options.documents.zipIdx.foldlM addInlineDocument engine

def prepare (files : FileSystem m) (options : RenderOptions) : Run m (Engine × Dict Value) := do
  if options.templates = [] ∧ options.documents = [] then
    failWith ["no templates given; pass --template or --template-data"]
  else
    let engine ← loadEngine files options
    let data ← loadData files options.data
    return (engine, data)

def renderMessages (name : String) (error : RenderError) : List String :=
  ("failed to render '" ++ name ++ "'") :: error.messages

/-- Prints a render as it goes on, so that what it writes before an error stays. -/
def renderToOutput (engine : Engine) (name : String) (data : Dict Value) : Run m ByteArray :=
  match engine.renderTo (.ofWriter .printer) name data .empty with
  | (.ok (), printed) => return printed
  | (.error error, printed) => throw { messages := renderMessages name error, printed }

/-- Writes a render to a file, after success alone. -/
def renderToFile (files : FileSystem m) (engine : Engine) (name : String) (data : Dict Value)
    (path : String) : Run m ByteArray := do
  match engine.render name data with
  | .ok text =>
    createParent files path
    save files path text
  | .error error => failWith (renderMessages name error)

/-- Renders to the standard output or to a file. Gives what is printed. -/
def render (files : FileSystem m) (options : RenderOptions) : Run m ByteArray := do
  let (engine, data) ← prepare files options
  if options.output = standardOutput then renderToOutput engine options.name data
  else renderToFile files engine options.name data options.output

/-- Prints the document of a template in markup, or writes it to a file. -/
def compileFile (files : FileSystem m) (options : CompileOptions) : Run m ByteArray := do
  let source ← readText files options.path ("failed to read " ++ options.path)
  match Markup.parse source with
  | .error error => failWith ["failed to parse " ++ options.path, error.message]
  | .ok root =>
    let name ← match options.name with
      | some name => pure name
      | none => templateName options.path
    let document := Document.ofTemplate (.ofMarkup name root)
    let text := document.toJson.toPretty ++ "\n"
    match options.output with
    | none => return text.toUTF8
    | some path => save files path text

def versionText : String := "hulma 0.1.0\n"

def usageText : String :=
  "Usage: hulma render [--template PATH]... [--template-data JSON]... [--data PATH]\n" ++
  "                    [--name NAME] [--output PATH] [--max-include-depth N]\n" ++
  "       hulma compile PATH [--name NAME] [--output PATH]\n"

def execute (files : FileSystem m) : Command → Run m ByteArray
  | .render options => render files options
  | .compile options => compileFile files options
  | .version => return versionText.toUTF8
  | .help => return usageText.toUTF8

/-- Runs the program on its arguments. Mistakes in usage have a code of their own. -/
def run (files : FileSystem m) (args : List String) : m Exit := do
  match command? args with
  | none => return ⟨2, .empty, usageText⟩
  | some command => return .ofResult (← (execute files command).run)

end

end TemplateEngine.CommandLine
