import TemplateEngine.Files.Error
import TemplateEngine.Files.Path

/-! # File systems

What a program does with files: it reads whole files, creates directories, and writes whole files.
-/

namespace TemplateEngine

structure FileSystem (m : Type → Type) where
  read : String → m (Except FileError ByteArray)
  createDirectory : String → m (Except FileError Unit)
  write : String → ByteArray → m (Except FileError Unit)

namespace FileSystem

variable {m : Type → Type} [Monad m]

/-- Whether a path leads to a directory, which cannot be read. -/
def isDirectory (files : FileSystem m) (path : String) : m Bool := do
  match ← files.read path with
  | .error .isADirectory => return true
  | _ => return false

/-- Creates a directory, unless it exists. -/
def ensureDirectory (files : FileSystem m) (path : String) : m (Except FileError Unit) := do
  match ← files.createDirectory path with
  | .error .alreadyExists =>
    if ← files.isDirectory path then return .ok () else return .error .alreadyExists
  | result => return result

/-- Creates the first of some directories, each of which lies in the next: where the next does not
exist, it is created before. -/
def ensureDirectories (files : FileSystem m) : List String → m (Except FileError Unit)
  | [] => return .ok ()
  | path :: outer => do
    match ← files.ensureDirectory path with
    | .error .notFound =>
      match ← ensureDirectories files outer with
      | .ok () => files.ensureDirectory path
      | .error error => return .error error
    | result => return result

def createDirectories (files : FileSystem m) (path : String) : m (Except FileError Unit) :=
  files.ensureDirectories (Path.ancestors path)

end FileSystem

end TemplateEngine
