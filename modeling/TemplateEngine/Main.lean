import TemplateEngine.CommandLine.Program

/-! # The program

The command line on the files of the machine. -/

namespace TemplateEngine

/-- The error of a file that an error of the machine stands for. -/
def FileError.ofMachine : IO.Error → FileError
  | .noFileOrDirectory _ _ _ => .notFound
  | .alreadyExists _ _ _ => .alreadyExists
  | .inappropriateType _ code _ => if code = 21 then .isADirectory else .notADirectory
  | error@(.invalidArgument _ code _) =>
    if code = 36 ∨ code = -36 then .nameTooLong else .other error.toString
  | error => .other error.toString

def attempt {α : Type} (action : IO α) : IO (Except FileError α) := do
  match ← action.toBaseIO with
  | .ok value => return .ok value
  | .error error => return .error (.ofMachine error)

def machineFiles : FileSystem IO where
  read path := attempt (IO.FS.readBinFile path)
  createDirectory path := attempt (IO.FS.createDir path)
  write path content := attempt (IO.FS.writeBinFile path content)

end TemplateEngine

def main (args : List String) : IO UInt32 := do
  let exit ← TemplateEngine.CommandLine.run TemplateEngine.machineFiles args
  (← IO.getStdout).write exit.printed
  IO.eprint exit.errors
  return UInt32.ofNat exit.code
