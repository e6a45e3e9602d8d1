import Mathlib.Data.String.Basic
import TemplateEngine.Markup.Parser

/-! # A cursor on markup

Markup can also be read in place. A cursor holds the number of bytes before it and the number of
selectors and calls around it, and every text that is looked at is cut out of the source, which goes
wrong unless both ends are between characters. The cursor only ever goes back where the name of an
argument turns out to be an expression.

What is done with the cursor is noted down in order. A reading has no result where loops and calls
go deeper than its fuel. -/

namespace TemplateEngine.Markup

structure Cursor where
  offset : Nat
  depth : Nat

namespace Cursor

inductive Routine where
  | display
  | comment
  | filters
  | expression
  | glued
  | arguments
  | argument
  | name
  | string

/-- Those that take up a character at least where they succeed. -/
def Routine.Advances : Routine → Prop
  | .display | .comment | .expression | .argument | .string => True
  | .filters | .glued | .arguments | .name => False

inductive Loop where
  | nodes
  | filters
  | arguments

inductive Act where
  /-- The text between two offsets is cut out. -/
  | cuts (start stop : Nat)
  | advances (stop : Nat)
  | retreats (stop : Nat)
  | nests
  | unnests
  /-- An argument starts here. -/
  | begins (start : Nat)
  /-- A loop goes round again after a round that started at an offset. -/
  | repeats (loop : Loop) (start : Nat)
  /-- A routine ends that was entered with a cursor. -/
  | returns (routine : Routine) (entry : Cursor) (succeeds : Bool)

def Act.move (cursor : Cursor) : Act → Cursor
  | .advances stop | .retreats stop => { cursor with offset := stop }
  | .nests => { cursor with depth := cursor.depth + 1 }
  | .unnests => { cursor with depth := cursor.depth - 1 }
  | .cuts .. | .begins _ | .repeats .. | .returns .. => cursor

inductive Halt where
  /-- No text can be cut out between two offsets. -/
  | panic
  | error (error : MarkupError Position)

structure Session where
  cursor : Cursor
  acts : List Act

abbrev Tape := StateT Session Option

abbrev Reading (α : Type) := ExceptT Halt Tape α

/-- Does an act and notes it down. -/
def note (act : Act) : Tape Unit :=
  modify fun session => ⟨act.move session.cursor, session.acts ++ [act]⟩

def act (act : Act) : Reading Unit := (do
  note act
  return .ok () : Tape (Except Halt Unit))

def here : Reading Cursor := (do
  return .ok (← get).cursor : Tape (Except Halt Cursor))

def advance (bytes : Nat) : Reading Unit := do
  act (.advances ((← here).offset + bytes))

/-- Does an act at the end of a reading, however that ended. -/
def concluded {α : Type} (act : Except Halt α → Act) (reading : Reading α) : Reading α := (do
  let result ← reading.run
  note (act result)
  return result : Tape (Except Halt α))

/-- Notes down how a routine ended. -/
def recorded {α : Type} (routine : Routine) (reading : Reading α) : Reading α := do
  let entry ← here
  concluded (fun result => .returns routine entry result.isOk) reading

/-- Leaves a level after what is nested there. -/
def unnested {α : Type} (reading : Reading α) : Reading α :=
  concluded (fun _ => .unnests) reading

def endless {α : Type} : Reading α :=
  (StateT.lift none : Tape (Except Halt α))

section

variable (source : String)

/-- The text between two offsets, if both are between characters and in order. -/
def cut? (start stop : Nat) : Option (List Char) :=
  if start ≤ stop then do
    let front ← Position.takeBytes? source.toList start
    Position.takeBytes? (source.toList.drop front.length) (stop - start)
  else none

def cut (start stop : Nat) : Reading (List Char) := do
  act (.cuts start stop)
  match cut? source start stop with
  | some text => return text
  | none => throw .panic

def rest : Reading (List Char) := do
  cut source (← here).offset source.utf8ByteSize

def peek : Reading (Option Char) :=
  return (← rest source).head?

def peekSecond : Reading (Option Char) :=
  return (← rest source).tail.head?

def position (offset : Nat) : Reading Position :=
  return Position.after (← cut source 0 offset)

def bump : Reading (Option Char) := do
  let next ← peek source
  match next with
  | some c =>
    advance c.utf8Size
    return next
  | none => return next

def eat (c : Char) : Reading Bool := do
  if (← peek source) = some c then
    advance c.utf8Size
    return true
  else return false

def bumpWhile (p : Char → Bool) : (fuel : Nat) → Reading Unit
  | 0 => endless
  | fuel + 1 => do
    match ← peek source with
    | some c =>
      if p c then
        let _ ← bump source
        bumpWhile p fuel
      else return ()
    | none => return ()

def skip : (fuel : Nat) → Reading Unit :=
  bumpWhile source Unicode.isWhiteSpace

def unclosedTag {α : Type} (tag : Nat) : Reading α := do
  let opened ← position source tag
  let found ← peek source
  let place ← position source (← here).offset
  throw (.error (.unclosedTag opened found place))

/-- Enters a level for what starts at `place`. -/
def nest (place : Nat) : Reading Unit := do
  if maxNesting ≤ (← here).depth then
    throw (.error (.nestingTooDeep maxNesting (← position source place)))
  else act .nests

def name (fuel : Nat) : Reading String := recorded .name do
  let start := (← here).offset
  bumpWhile source isIdentContinue fuel
  return String.ofList (← cut source start (← here).offset)

/-- Looks for the closing quote of a string. -/
def closeString (quote : Char) (start content : Nat) : (fuel : Nat) → Reading Expr
  | 0 => endless
  | fuel + 1 => do
    match ← bump source with
    | some c =>
      if c = quote then
        return .content (String.ofList (← cut source content ((← here).offset - quote.utf8Size)))
      else closeString quote start content fuel
    | none => throw (.error (.unterminatedString (← position source start)))

def string (quote : Char) (fuel : Nat) : Reading Expr := recorded .string do
  let start := (← here).offset
  let _ ← bump source
  closeString source quote start (← here).offset fuel

/-- The name of an argument, or a step back to where the argument starts. -/
def label? (fuel : Nat) : Reading (Option String) := do
  let start := (← here).offset
  if (← peek source).any isIdentStart then
    let label ← name source fuel
    skip source fuel
    if ← eat source '=' then return some label
    else
      act (.retreats start)
      return none
  else return none

/-- Whether the call ends after an argument, or another argument follows. -/
def separator (tag fuel : Nat) : Reading Bool := do
  skip source fuel
  let place := (← here).offset
  match ← bump source with
  | some sign =>
    if sign = ')' then return true
    else if sign = ',' then return false
    else throw (.error (.unknownToken sign (← position source place)))
  | none => unclosedTag source tag

mutual

def expression (tag : Nat) : (fuel : Nat) → Reading Expr
  | 0 => endless
  | fuel + 1 => recorded .expression do
    skip source fuel
    let place := (← here).offset
    match ← peek source with
    | some c =>
      if isIdentStart c then glued tag (← name source fuel) fuel
      else if c = '"' ∨ c = '\'' then string source c fuel
      else throw (.error (.unknownToken c (← position source place)))
    | none => unclosedTag source tag

def filters (tag : Nat) (expr : Expr) : (fuel : Nat) → Reading Expr
  | 0 => endless
  | fuel + 1 => recorded .filters (pipes tag expr fuel)

def pipes (tag : Nat) (expr : Expr) : (fuel : Nat) → Reading Expr
  | 0 => endless
  | fuel + 1 => do
    let round := (← here).offset
    skip source fuel
    if ← eat source '|' then
      skip source fuel
      let place := (← here).offset
      match ← expression tag fuel with
      | .var name =>
        act (.repeats .filters round)
        pipes tag (.filter name expr) fuel
      | _ => throw (.error (.expectedFilterName (← position source place)))
    else return expr

/-- What may be glued to a name: a field or the arguments of a call. -/
def glued (tag : Nat) (base : String) : (fuel : Nat) → Reading Expr
  | 0 => endless
  | fuel + 1 => recorded .glued do
    match ← peek source with
    | some '.' =>
      let _ ← bump source
      nest source (← here).offset
      let accessor ← unnested (field tag fuel)
      return .selector (.var base) accessor
    | some '(' =>
      let _ ← bump source
      nest source (← here).offset
      let args ← unnested (arguments tag fuel)
      return .function base args
    | _ => return .var base

def field (tag : Nat) : (fuel : Nat) → Reading Expr
  | 0 => endless
  | fuel + 1 => do
    let place := (← here).offset
    match ← peek source with
    | some c =>
      if isIdentContinue c then glued tag (← name source fuel) fuel
      else throw (.error (.unknownToken c (← position source place)))
    | none => unclosedTag source tag

def arguments (tag : Nat) : (fuel : Nat) → Reading (List Argument)
  | 0 => endless
  | fuel + 1 => recorded .arguments do
    skip source fuel
    if ← eat source ')' then return []
    else each tag [] fuel

def each (tag : Nat) (prior : List Argument) : (fuel : Nat) → Reading (List Argument)
  | 0 => endless
  | fuel + 1 => do
    let round := (← here).offset
    skip source fuel
    let start := (← here).offset
    let arg ← argument tag fuel
    match repeatsName prior arg with
    | some name => throw (.error (.duplicateArgument name (← position source start)))
    | none =>
      if ← separator source tag fuel then return prior ++ [arg]
      else
        act (.repeats .arguments round)
        each tag (prior ++ [arg]) fuel

def argument (tag : Nat) : (fuel : Nat) → Reading Argument
  | 0 => endless
  | fuel + 1 => recorded .argument do
    skip source fuel
    act (.begins (← here).offset)
    let label ← label? source fuel
    let expr ← expression tag fuel
    return .value label (← filters tag expr fuel)

end

def display (tag fuel : Nat) : Reading Node := recorded .display do
  let expr ← expression source tag fuel
  let expr ← filters source tag expr fuel
  skip source fuel
  if ['\x7d', '\x7d'].isPrefixOf (← rest source) then
    advance 2
    return .display expr
  else unclosedTag source tag

def comment (tag : Nat) : Reading Node := recorded .comment do
  match takeComment? (← rest source) with
  | some (inside, _) =>
    let start := (← here).offset
    let text ← cut source start (start + String.utf8Len inside)
    advance (String.utf8Len inside + 2)
    return .comment (String.ofList text)
  | none => throw (.error (.unterminatedComment (← position source tag)))

/-- The text since `start`, unless it is empty. -/
def content (start : Nat) : Reading (List Node) := do
  let stop := (← here).offset
  if start < stop then return contentOf (← cut source start stop)
  else return []

/-- The sign that starts a tag after its opening brace. -/
def opener? (c : Char) (next : Option Char) : Option Char :=
  if c = '\x7b' then next.filter fun sign => sign = '\x7b' ∨ sign = '%' ∨ sign = '#' else none

/-- A tag that was opened at an offset, after its two opening characters. -/
def tagged (sign : Char) (tag fuel : Nat) : Reading Node :=
  if sign = '\x7b' then display source tag fuel
  else if sign = '#' then comment source tag
  else do throw (.error (.statementTag (← position source tag)))

/-- All nodes after those read so far, with the text since `raw` still to be taken down. -/
def nodes : (raw : Nat) → (children : List Node) → (fuel : Nat) → Reading Node
  | _, _, 0 => endless
  | raw, children, fuel + 1 => do
    let round := (← here).offset
    match ← peek source with
    | none => return .source (children ++ (← content source raw))
    | some c =>
      match opener? c (← peekSecond source) with
      | none =>
        let _ ← bump source
        act (.repeats .nodes round)
        nodes raw children fuel
      | some sign =>
        let text ← content source raw
        advance 2
        let node ← tagged source sign round fuel
        act (.repeats .nodes round)
        nodes (← here).offset (children ++ text ++ [node]) fuel

def read (fuel : Nat) : Option (Except Halt Node × Session) :=
  (nodes source 0 [] fuel).run.run ⟨⟨0, 0⟩, []⟩

end

end Cursor

end TemplateEngine.Markup
