import TemplateEngine.Markup.Expression

/-! # Templates in markup

Markup is text with comments and display tags in it. A tag starts where an opening brace is followed
by a brace, a percent sign or a number sign, and all else is text. -/

namespace TemplateEngine.Markup

/-- The text up to the first tag, and the text from there on. -/
def takeRaw : List Char → List Char × List Char
  | [] => ([], [])
  | c :: rest =>
    if c = '\x7b' ∧ (rest.head? = some '\x7b' ∨ rest.head? = some '%' ∨ rest.head? = some '#') then
      ([], c :: rest)
    else
      let (raw, tags) := takeRaw rest
      (c :: raw, tags)

/-- The text of a comment up to its first closing mark, and the text after that. -/
def takeComment? : List Char → Option (List Char × List Char)
  | [] => none
  | '#' :: '\x7d' :: rest => some ([], rest)
  | c :: rest => (takeComment? rest).map fun (text, rest) => (c :: text, rest)

/-- A display tag after its two opening braces. -/
def scanDisplay (opened : List Char) : Scanner Node := fun s => do
  let (expr, rest) ← scanExpression opened s
  match skipBlanks rest with
  | '\x7d' :: '\x7d' :: rest => return (.display expr, rest)
  | rest => .error (unclosed opened rest)

def scanTag (opened : List Char) : Scanner Node := fun s =>
  match s with
  | _ :: '\x7b' :: rest => scanDisplay opened rest
  | _ :: '#' :: rest =>
    match takeComment? rest with
    | some (text, rest) => .ok (.comment (String.ofList text), rest)
    | none => .error (.unterminatedComment opened)
  | _ => .error (.statementTag opened)

def contentOf (raw : List Char) : List Node :=
  if raw = [] then [] else [.content (String.ofList raw)]

/-- Text and tags in turn, at most `fuel` tags. -/
def scanNodes : (fuel : Nat) → List Char → Except (MarkupError (List Char)) (List Node)
  | fuel, s =>
    match takeRaw s, fuel with
    | (raw, []), _ => .ok (contentOf raw)
    | (raw, _ :: _), 0 => .ok (contentOf raw)
    | (raw, tag), fuel + 1 => do
      let (node, rest) ← scanTag tag tag
      let nodes ← scanNodes fuel rest
      return contentOf raw ++ node :: nodes

/-- The tree of a template in markup. Every tag takes up a character. -/
def parse (source : String) : Except (MarkupError Position) Node :=
  let s := source.toList
  match scanNodes s.length s with
  | .ok nodes => .ok (.source nodes)
  | .error error => .error (error.map (Position.before s))

end TemplateEngine.Markup
