/-! # Paths

A path is names separated by slashes. Empty names, and points after the start, do not belong to the
name that a path leads to. -/

namespace TemplateEngine.Path

/-- The last of the names, with what comes before it. Slashes and lone points at the end do not
belong to a name. -/
def splitLast (path : List Char) : List Char × List Char :=
  let reversed := path.reverse
  let name := reversed.takeWhile (· ≠ '/')
  ((reversed.drop name.length).reverse, name.reverse)

/-- The path without the slashes and lone points at its end, at most `fuel` of them. -/
def trimEnd : (fuel : Nat) → List Char → List Char
  | 0, path => path
  | fuel + 1, path =>
    match path.reverse with
    | '/' :: rest => if rest = [] then path else trimEnd fuel rest.reverse
    | '.' :: '/' :: rest =>
      if rest = [] then ['/'] else trimEnd fuel ('/' :: rest).reverse
    | _ => path

def trimmed (path : String) : List Char :=
  trimEnd path.length path.toList

/-- The name of the file that a path leads to. A path that ends in points leads to none. -/
def fileName? (path : String) : Option String :=
  match (splitLast (trimmed path)).2 with
  | [] => none
  | ['.'] => none
  | ['.', '.'] => none
  | name => some (String.ofList name)

/-- A name parted at its last point, unless the point comes first. -/
def splitName (name : String) : String × Option String :=
  let reversed := name.toList.reverse
  let extension := reversed.takeWhile (· ≠ '.')
  match (reversed.drop extension.length).reverse.dropLast with
  | [] => (name, none)
  | stem => (String.ofList stem, some (String.ofList extension.reverse))

def stem? (path : String) : Option String :=
  (fileName? path).map fun name => (splitName name).1

def extension? (path : String) : Option String :=
  (fileName? path).bind fun name => (splitName name).2

/-- Whether a path has one of the extensions, in whatever case of letters. -/
def hasExtension (path : String) (wanted : List String) : Bool :=
  match extension? path with
  | none => false
  | some extension => wanted.any fun w => extension.toLower = w.toLower

/-- The path of the directory that a path lies in. It is empty for a name alone, and a root has
none. -/
def parent? (path : String) : Option String :=
  match trimmed path with
  | [] => none
  | ['/'] => none
  | path =>
    let before := (splitLast path).1
    some (String.ofList (trimEnd before.length before))

/-- A path and those of the directories around it, at most `fuel` of them, up to the start of the
path. -/
def ancestorsUpTo : (fuel : Nat) → String → List String
  | 0, _ => []
  | fuel + 1, path =>
    match parent? path with
    | none => []
    | some parent => path :: ancestorsUpTo fuel parent

def ancestors (path : String) : List String :=
  ancestorsUpTo path.length path

/-- What is between the slashes of a path. -/
def steps (path : String) : List String :=
  ((path.toList.splitOn '/').filter (· ≠ [])).map String.ofList

/-- A path that starts with a slash starts at the root of all directories. -/
def isAbsolute (path : String) : Bool :=
  path.toList.head? = some '/'

/-- A slash at the end of a path asks for a directory. -/
def asksDirectory (path : String) : Bool :=
  path.toList.getLast? = some '/'

end TemplateEngine.Path
