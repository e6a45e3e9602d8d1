import TemplateEngine.Markup.Error
import TemplateEngine.Node.Tree
import TemplateEngine.Unicode.Alphabetic
import TemplateEngine.Unicode.Numeric
import TemplateEngine.Unicode.WhiteSpace

/-! # Expressions in markup

An expression is a quoted string or a name, to which fields and the arguments of a call may be
glued, and pipes to filters may follow. Every scanner takes the text still to be read and gives what
it read with the text after it. Errors name places by the text from there on. -/

namespace TemplateEngine.Markup

abbrev Scanner (α : Type) := List Char → Except (MarkupError (List Char)) (α × List Char)

/-- How many selectors, calls and arguments may stand inside one another. -/
def maxNesting : Nat := 64

def isIdentStart (c : Char) : Bool :=
  c = '_' || Unicode.isAlphabetic c

def isIdentContinue (c : Char) : Bool :=
  c = '_' || Unicode.isAlphabetic c || Unicode.isNumeric c

def skipBlanks (s : List Char) : List Char :=
  s.dropWhile Unicode.isWhiteSpace

/-- The longest run of identifier characters and the text after it. -/
def takeIdent (s : List Char) : String × List Char :=
  (String.ofList (s.takeWhile isIdentContinue), s.dropWhile isIdentContinue)

/-- The tag opened at `opened` is not closed at `s`. -/
def unclosed (opened s : List Char) : MarkupError (List Char) :=
  .unclosedTag opened s.head? s

/-- A string after its opening quote: it has no escapes and ends with the same quote. -/
def scanString (quote : Char) : Scanner Expr := fun s =>
  match s.dropWhile (· ≠ quote) with
  | [] => .error (.unterminatedString (quote :: s))
  | _ :: rest => .ok (.content (String.ofList (s.takeWhile (· ≠ quote))), rest)

/-- A string, or a name with what is glued to it. -/
def scanPrimary (opened : List Char) (glued : String → Scanner Expr) : Scanner Expr := fun s =>
  match skipBlanks s with
  | [] => .error (unclosed opened [])
  | c :: rest =>
    if isIdentStart c then
      let (name, rest) := takeIdent (c :: rest)
      glued name rest
    else if c = '"' || c = '\'' then scanString c rest
    else .error (.unknownToken c (c :: rest))

/-- The filters that `expr` is piped through, at most `fuel` of them. -/
def scanFilters (primary : Scanner Expr) : (fuel : Nat) → (expr : Expr) → Scanner Expr
  | 0, expr, s => .ok (expr, skipBlanks s)
  | fuel + 1, expr, s =>
    match skipBlanks s with
    | '|' :: rest => do
      let start := skipBlanks rest
      match ← primary start with
      | (.var name, rest) => scanFilters primary fuel (.filter name expr) rest
      | _ => .error (.expectedFilterName start)
    | rest => .ok (expr, rest)

/-- An expression with its filters. Every pipe takes up a character. -/
def scanChain (primary : Scanner Expr) : Scanner Expr := fun s => do
  let (expr, rest) ← primary s
  scanFilters primary rest.length expr rest

/-- The name before an equals sign. -/
def takeLabel? (s : List Char) : Option (String × List Char) :=
  match s with
  | [] => none
  | c :: _ =>
    if isIdentStart c then
      let (name, rest) := takeIdent s
      match skipBlanks rest with
      | '=' :: rest => some (name, rest)
      | _ => none
    else none

def scanArgument (chain : Scanner Expr) : Scanner Argument := fun s => do
  let (name, s) := match takeLabel? s with
    | some (name, rest) => (some name, rest)
    | none => (none, s)
  let (expr, rest) ← chain s
  return (.value name expr, rest)

/-- Whether an argument repeats the name of an earlier one. -/
def repeatsName (prior : List Argument) (arg : Argument) : Option String :=
  match arg.name with
  | none => none
  | some name => if prior.any (·.name = some name) then some name else none

/-- The arguments after `prior`, of which there is one at least, up to the closing parenthesis. At
most `fuel` arguments are read. -/
def scanArguments (opened : List Char) (chain : Scanner Expr) :
    (fuel : Nat) → (prior : List Argument) → Scanner (List Argument)
  | 0, _, s => .error (unclosed opened s)
  | fuel + 1, prior, s => do
    let start := skipBlanks s
    let (arg, rest) ← scanArgument chain start
    match repeatsName prior arg with
    | some name => .error (.duplicateArgument name start)
    | none =>
      match skipBlanks rest with
      | ')' :: rest => .ok (prior ++ [arg], rest)
      | ',' :: rest => scanArguments opened chain fuel (prior ++ [arg]) rest
      | [] => .error (unclosed opened [])
      | c :: rest => .error (.unknownToken c (c :: rest))

/-- The arguments of a call after its opening parenthesis. Every argument takes up a character. -/
def scanCall (opened : List Char) (chain : Scanner Expr) : Scanner (List Argument) := fun s =>
  match skipBlanks s with
  | ')' :: rest => .ok ([], rest)
  | rest => scanArguments opened chain (rest.length + 1) [] rest

/-- What is glued to a name: a field, which may be a number, or the arguments of a call. Either may
nest `levels` further levels. -/
def scanGlued (opened : List Char) : (levels : Nat) → (name : String) → Scanner Expr
  | 0, _, '.' :: rest => .error (.nestingTooDeep maxNesting rest)
  | 0, _, '(' :: rest => .error (.nestingTooDeep maxNesting rest)
  | levels + 1, name, '.' :: rest =>
    match rest with
    | [] => .error (unclosed opened [])
    | c :: _ =>
      if isIdentContinue c then do
        let (field, rest) := takeIdent rest
        let (accessor, rest) ← scanGlued opened levels field rest
        return (.selector (.var name) accessor, rest)
      else .error (.unknownToken c rest)
  | levels + 1, name, '(' :: rest => do
    let (args, rest) ←
      scanCall opened (scanChain (scanPrimary opened (scanGlued opened levels))) rest
    return (.function name args, rest)
  | _, name, rest => .ok (.var name, rest)

def scanExpression (opened : List Char) : Scanner Expr :=
  scanChain (scanPrimary opened (scanGlued opened maxNesting))

end TemplateEngine.Markup
