import TemplateEngine.Dict
import TemplateEngine.Yaml.Block
import TemplateEngine.Yaml.Plain
import TemplateEngine.Yaml.Quoted
import TemplateEngine.Yaml.Token

/-! # Layout of YAML

The tokens of a text. A column further right opens a block collection, and one further left closes
those that started right of it. That something is a key shows only at the colon after it: its place
among the tokens is kept until then. -/

namespace TemplateEngine.Yaml

/-- What may turn out to be a key: where it starts, and how many tokens come before it. A required
one starts in the column of a block collection, where only a key can stand. -/
structure PendingKey where
  place : Nat
  line : Nat
  column : Nat
  offset : Nat
  required : Bool

structure Layout where
  cursor : Cursor
  /-- The tokens so far, the last first, and their number. -/
  tokens : List Token := []
  count : Nat := 0
  /-- The columns of the open block collections, the innermost first. -/
  columns : List Nat := []
  /-- The pending keys of the open flow collections and of the block around them. -/
  key : Option PendingKey := none
  outerKeys : List (Option PendingKey) := []
  keyAllowed : Bool := true
  /-- The number of each anchor's name. -/
  anchors : Dict Nat := []

namespace Layout

/-- A key lies on one line and has at most this many bytes. -/
def keyLimit : Nat := 1024

def inFlow (l : Layout) : Bool :=
  l.outerKeys ≠ []

/-- The first column right of the innermost block collection. -/
def least (l : Layout) : Nat :=
  l.columns.head?.elim 0 (· + 1)

/-- Puts a token among those that there are. -/
def insert (place : Nat) (token : Token) (l : Layout) : Layout :=
  let (after, before) := l.tokens.splitAt (l.count - place)
  { l with tokens := after ++ token :: before, count := l.count + 1 }

/-- Puts a token after all others, and goes on at a cursor. -/
def add (token : Token) (cursor : Cursor) (l : Layout) : Layout :=
  { l with cursor, tokens := token :: l.tokens, count := l.count + 1 }

/-- Skips spaces, line ends and comments. Tabs are skipped where no key may start. In blocks a new
line may start with a key. -/
def skipToToken : (fuel : Nat) → Layout → Layout
  | 0, l => l
  | fuel + 1, l =>
    let c := l.cursor
    let c := if c.column = 0 ∧ c.next? = some '\ufeff' then c.advance 1 else c
    let tabs := l.inFlow || !l.keyAllowed
    let c := (c.skipWhile fun x => x = ' ' || tabs && x = '\t').skipComment
    match c.takeBreak? with
    | some (_, next) =>
      skipToToken fuel { l with cursor := next, keyAllowed := l.keyAllowed || !l.inFlow }
    | none => { l with cursor := c }

/-- Whether a pending key can no longer be one. -/
def isStale (l : Layout) (key : PendingKey) : Bool :=
  key.line < l.cursor.line || key.offset + keyLimit < l.cursor.offset

/-- The pending keys without those that can no longer be keys, unless one was required. -/
def dropStale? (l : Layout) : Option Layout :=
  let stale : Option PendingKey → Bool := fun key => key.any l.isStale
  let keys := l.key :: l.outerKeys
  if keys.any fun key => stale key && key.any (·.required) then none
  else
    let fresh : Option PendingKey → Option PendingKey := fun key => if stale key then none else key
    some { l with key := fresh l.key, outerKeys := l.outerKeys.map fresh }

/-- Gives up the pending key, unless it was required. -/
def dropKey? (l : Layout) : Option Layout :=
  if l.key.any (·.required) then none else some { l with key := none }

def markKey? (l : Layout) : Option Layout :=
  if l.keyAllowed then do
    let l ← l.dropKey?
    let c := l.cursor
    some { l with
      key := some {
        place := l.count
        line := c.line
        column := c.column
        offset := c.offset
        required := !l.inFlow && l.columns.head? = some c.column } }
  else some l

/-- Opens a block collection, if the column is further right than the innermost. -/
def openColumn (column place : Nat) (start : Token) (l : Layout) : Layout :=
  if !l.inFlow && l.least ≤ column then
    { l.insert place start with columns := column :: l.columns }
  else l

/-- Closes the block collections whose columns are not kept. -/
def closeColumns (kept : Nat → Bool) (l : Layout) : Layout :=
  if l.inFlow then l
  else
    let closed := (l.columns.takeWhile (!kept ·)).length
    { l with
      tokens := List.replicate closed .blockEnd ++ l.tokens
      count := l.count + closed
      columns := l.columns.drop closed }

/-- Ends what is open before a directive, a marker or the end of the text. -/
def closeAll? (l : Layout) : Option Layout := do
  let l ← (l.closeColumns fun _ => false).dropKey?
  some { l with keyAllowed := false }

def addSign (token : Token) (length : Nat) (l : Layout) : Layout :=
  l.add token (l.cursor.advance length)

def readFlowStart? (token : Token) (l : Layout) : Option Layout := do
  let l ← l.markKey?
  some { l.addSign token 1 with
    key := none, outerKeys := l.key :: l.outerKeys, keyAllowed := true }

def readFlowEnd? (token : Token) (l : Layout) : Option Layout := do
  let l ← l.dropKey?
  some { l.addSign token 1 with
    key := l.outerKeys.head?.join, outerKeys := l.outerKeys.drop 1, keyAllowed := false }

def readComma? (l : Layout) : Option Layout := do
  let l ← l.dropKey?
  some { l.addSign .comma 1 with keyAllowed := true }

/-- A sign that opens a collection in its own column, if it is in a block. -/
def readOpening? (start token : Token) (l : Layout) : Option Layout :=
  if l.inFlow || l.keyAllowed then do
    let l ← (l.openColumn l.cursor.column l.count start).dropKey?
    some (l.addSign token 1)
  else none

def readItem? (l : Layout) : Option Layout := do
  let l ← l.readOpening? .listStart .item
  some { l with keyAllowed := true }

def readKey? (l : Layout) : Option Layout := do
  let l ← l.readOpening? .mappingStart .key
  some { l with keyAllowed := !l.inFlow }

/-- A colon makes the pending key one, and opens a mapping in its column. -/
def readValue? (l : Layout) : Option Layout :=
  match l.key with
  | some key =>
    let l := (l.insert key.place .key).openColumn key.column key.place .mappingStart
    some { l.addSign .value 1 with key := none, keyAllowed := false }
  | none =>
    if l.inFlow || l.keyAllowed then
      let l := l.openColumn l.cursor.column l.count .mappingStart
      some { l.addSign .value 1 with keyAllowed := !l.inFlow }
    else none

/-- The number of a new anchor is the number of names that have one. -/
def readAnchor? (l : Layout) : Option Layout := do
  let l ← l.markKey?
  let (name, c) ← takeName? (l.cursor.advance 1)
  let number := l.anchors.length
  some { l.add (.anchor number) c with
    anchors := Dict.insert name number l.anchors, keyAllowed := false }

def readReference? (l : Layout) : Option Layout := do
  let l ← l.markKey?
  let (name, c) ← takeName? (l.cursor.advance 1)
  let number ← Dict.find? l.anchors name
  some { l.add (.reference number) c with keyAllowed := false }

def readTag? (fuel : Nat) (l : Layout) : Option Layout := do
  let l ← l.markKey?
  let (tag, c) ← takeTag? fuel l.cursor
  if endsTag l.inFlow c.rest then some { l.add (.tag tag) c with keyAllowed := false } else none

def addScalar (plain : Bool) (text : List Char) (c : Cursor) (l : Layout) : Layout :=
  l.add (.scalar plain (String.ofList text)) c

def readBlock? (folded : Bool) (fuel : Nat) (l : Layout) : Option Layout := do
  let l ← l.dropKey?
  let (text, c) ← takeBlock? folded l.least fuel (l.cursor.advance 1)
  some { l.addScalar false text c with keyAllowed := true }

def readQuoted? (quote : Char) (fuel : Nat) (l : Layout) : Option Layout := do
  let l ← l.markKey?
  let (text, c) ← takeQuoted? quote fuel (l.cursor.advance 1)
  some { l.addScalar false text c with keyAllowed := false }

/-- After a plain scalar with a line end, a key may follow. -/
def readPlain? (fuel : Nat) (l : Layout) : Option Layout := do
  let l ← l.markKey?
  let (text, lineEnded, c) ← takePlain? l.inFlow l.least fuel {} l.cursor
  some { l.addScalar true text c with keyAllowed := lineEnded }

def readDirective? (fuel : Nat) (l : Layout) : Option Layout := do
  let l ← l.closeAll?
  let (directive, c) ← takeDirective? fuel (l.cursor.advance 1)
  some (l.add (.directive directive) c)

def readMarker? (token : Token) (l : Layout) : Option Layout := do
  let l ← l.closeAll?
  some (l.addSign token 3)

/-- Reads the token at a place that is not the end of the text. -/
def readToken? (fuel : Nat) (l : Layout) : Option Layout :=
  let s := l.cursor.rest
  let ends := endsWord (s.drop 1)
  match l.cursor.column, s.headD ' ' with
  | 0, '%' => l.readDirective? fuel
  | _, c =>
    if l.cursor.atMarker then l.readMarker? (if c = '-' then .documentStart else .documentEnd)
    else if c = '[' then l.readFlowStart? .flowListStart
    else if c = '\x7b' then l.readFlowStart? .flowMappingStart
    else if c = ']' then l.readFlowEnd? .flowListEnd
    else if c = '\x7d' then l.readFlowEnd? .flowMappingEnd
    else if c = ',' then l.readComma?
    else if c = '-' && ends then l.readItem?
    else if c = '?' && (l.inFlow || ends) then l.readKey?
    else if c = ':' && (l.inFlow || ends) then l.readValue?
    else if c = '*' then l.readReference?
    else if c = '&' then l.readAnchor?
    else if c = '!' then l.readTag? fuel
    else if c = '|' && !l.inFlow then l.readBlock? false fuel
    else if c = '>' && !l.inFlow then l.readBlock? true fuel
    else if c = '\'' || c = '"' then l.readQuoted? c fuel
    else if startsPlain l.inFlow s then l.readPlain? fuel
    else none

def readAll? : (fuel : Nat) → Layout → Option Layout
  | 0, _ => none
  | fuel + 1, l => do
    let l ← (l.skipToToken (fuel + 1)).dropStale?
    if l.cursor.rest = [] then l.closeAll?
    else
      let l := l.closeColumns (· ≤ l.cursor.column)
      readAll? fuel (← l.readToken? (fuel + 1))

end Layout

def tokens? (text : String) : Option (List Token) :=
  let s := text.toList
  if s.all isPrintable then do
    let l ← ({ cursor := { rest := s } } : Layout).readAll? (s.length + 1)
    some l.tokens.reverse
  else none

end TemplateEngine.Yaml
