import TemplateEngine.Yaml.Cursor
import TemplateEngine.Yaml.Digits

/-! # Quoted scalars

Between single quotes only a doubled quote means something else than itself; between double quotes
a backslash starts an escape, or joins two lines. -/

namespace TemplateEngine.Yaml

def charOfHex? (digits : List Char) : Option Char := do
  let code ← natIn? 16 digits
  if code.isValidChar then some (Char.ofNat code) else none

/-- What the characters after a backslash stand for, and the number of them. -/
def escape? : List Char → Option (Char × Nat)
  | 'x' :: rest => if 2 ≤ rest.length then (charOfHex? (rest.take 2)).map (·, 3) else none
  | 'u' :: rest => if 4 ≤ rest.length then (charOfHex? (rest.take 4)).map (·, 5) else none
  | 'U' :: rest => if 8 ≤ rest.length then (charOfHex? (rest.take 8)).map (·, 9) else none
  | c :: _ =>
    (List.lookup c [('0', '\x00'), ('a', '\x07'), ('b', '\x08'), ('t', '\t'), ('\t', '\t'),
      ('n', '\n'), ('v', '\x0b'), ('f', '\x0c'), ('r', '\r'), ('e', '\x1b'), (' ', ' '),
      ('"', '"'), ('/', '/'), ('\\', '\\'), ('N', '\u0085'), ('_', '\u00a0'), ('L', '\u2028'),
      ('P', '\u2029')]).map (·, 1)
  | [] => none

/-- The word at a place, and whether it ends with an escaped line end. -/
def takeQuotedWord? (quote : Char) : (fuel : Nat) → Cursor → Option (List Char × Bool × Cursor)
  | 0, _ => none
  | fuel + 1, c =>
    match c.rest with
    | [] => some ([], false, c)
    | x :: rest =>
      let continueWith (y : Char) (c : Cursor) := do
        let (word, joined, c) ← takeQuotedWord? quote fuel c
        some (y :: word, joined, c)
      if isBlank x || isBreak x then some ([], false, c)
      else if x = quote then
        if quote = '\'' && rest.head? = some '\'' then continueWith '\'' (c.advance 2)
        else some ([], false, c)
      else if quote = '"' && x = '\\' then
        match (c.advance 1).takeBreak? with
        | some (_, next) => some ([], true, next)
        | none => do
          let (y, count) ← escape? rest
          continueWith y (c.advance (count + 1))
      else continueWith x (c.advance 1)

/-- The scalar after its opening quote. After an escaped line end the others stay. -/
def takeQuoted? (quote : Char) : (fuel : Nat) → Cursor → Option (List Char × Cursor)
  | 0, _ => none
  | fuel + 1, c =>
    if c.atMarker || c.rest = [] then none
    else do
      let (word, joined, c) ← takeQuotedWord? quote (fuel + 1) c
      if c.next? = some quote then some (word, c.advance 1)
      else
        let (between, c) ←
          if joined then c.takeBreaks? 0 (fuel + 1)
          else (c.takeGap? 0 (fuel + 1)).map fun (gap, c) => (gap.text, c)
        let (text, c) ← takeQuoted? quote fuel c
        some (word ++ between ++ text, c)

end TemplateEngine.Yaml
