import TemplateEngine.Dict
import TemplateEngine.Files.System

/-! # Trees of files

A directory with the files and directories in it, and what reading and writing do to it. A path is
followed step by step from a directory, each step of which must exist, and lead into a directory
before the next. -/

namespace TemplateEngine

inductive FileTree where
  | file (content : ByteArray)
  | directory (entries : List (String × FileTree))

namespace FileTree

def empty : FileTree := .directory []

/-- What stands at the end of the names. -/
def find? : FileTree → List String → Option FileTree
  | tree, [] => some tree
  | .file _, _ :: _ => none
  | .directory entries, name :: names =>
    match Dict.find? entries name with
    | none => none
    | some tree => find? tree names

/-- Puts a tree at the end of the names, and creates the directories on the way. A file on the way
stays. -/
def put (new : FileTree) : List String → FileTree → FileTree
  | [], _ => new
  | name :: names, .directory entries =>
    .directory (Dict.insert name (put new names ((Dict.find? entries name).getD empty)) entries)
  | _ :: _, tree => tree

/-- The number of bytes that a path has less of. -/
def pathLimit : Nat := 4096

/-- The greatest number of bytes of a name. -/
def nameLimit : Nat := 255

def isDirectoryAt (tree : FileTree) (names : List String) : Bool :=
  match tree.find? names with
  | some (.directory _) => true
  | _ => false

/-- The names that lead to the end of a step from a directory: a point stays, and two points lead
back. -/
def enter (tree : FileTree) (names : List String) (step : String) :
    Except FileError (List String) :=
  if !tree.isDirectoryAt names then .error .notADirectory
  else if step = "." then .ok names
  else if step = ".." then .ok names.dropLast
  else if nameLimit < step.utf8ByteSize then .error .nameTooLong
  else if (tree.find? (names ++ [step])).isSome then .ok (names ++ [step])
  else .error .notFound

/-- The names that lead to the end of the steps. -/
def walk (tree : FileTree) (names steps : List String) : Except FileError (List String) :=
  steps.foldlM tree.enter names

/-- The steps of a path with the names of the directory that it starts from. -/
def start (here : List String) (path : String) : Except FileError (List String × List String) :=
  if path = "" then .error .notFound
  else if pathLimit ≤ path.utf8ByteSize then .error .nameTooLong
  else .ok (if Path.isAbsolute path then [] else here, Path.steps path)

def read (here : List String) (path : String) (tree : FileTree) : Except FileError ByteArray := do
  let (names, steps) ← start here path
  let names ← tree.walk names steps
  match tree.find? names with
  | some (.file content) => if Path.asksDirectory path then .error .notADirectory else .ok content
  | _ => .error .isADirectory

/-- Where a path leads that need not exist: the names of the directory, and the name in it. A path
to the directory itself or to one around it has no such name. -/
def place (here : List String) (path : String) (tree : FileTree) :
    Except FileError (List String × Option String) := do
  let (names, steps) ← start here path
  let names ← tree.walk names steps.dropLast
  if !tree.isDirectoryAt names then .error .notADirectory
  else .ok (names, steps.getLast?.filter fun step => step ≠ "." && step ≠ "..")

def createDirectory (here : List String) (path : String) (tree : FileTree) :
    Except FileError FileTree := do
  match ← tree.place here path with
  | (_, none) => .error .alreadyExists
  | (names, some name) =>
    if nameLimit < name.utf8ByteSize then .error .nameTooLong
    else if (tree.find? (names ++ [name])).isSome then .error .alreadyExists
    else .ok (put empty (names ++ [name]) tree)

/-- Writes a file, in place of one that exists. -/
def write (here : List String) (path : String) (content : ByteArray) (tree : FileTree) :
    Except FileError FileTree := do
  match ← tree.place here path with
  | (_, none) => .error .isADirectory
  | (names, some name) =>
    if Path.asksDirectory path then .error .isADirectory
    else if nameLimit < name.utf8ByteSize then .error .nameTooLong
    else if tree.isDirectoryAt (names ++ [name]) then .error .isADirectory
    else .ok (put (.file content) (names ++ [name]) tree)

/-- Takes over the tree after success, and keeps the one before after an error. -/
def update (change : FileTree → Except FileError FileTree) :
    StateM FileTree (Except FileError Unit) := fun tree =>
    match change tree with
    | .ok tree => (.ok (), tree)
    | .error error => (.error error, tree)

/-- A tree as the files that a program works on in the directory `here`. -/
def fileSystem (here : List String) : FileSystem (StateM FileTree) where
  read path := fun tree => (tree.read here path, tree)
  createDirectory path := update (createDirectory here path)
  write path content := update (write here path content)

end FileTree

end TemplateEngine
