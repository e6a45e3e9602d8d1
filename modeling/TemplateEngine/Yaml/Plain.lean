import TemplateEngine.Yaml.Cursor

/-! # Plain scalars

A plain scalar is words and the gaps between them. It ends before what may mean something else: a
colon that ends a key, a comment, a bracket of a flow collection, a line that is not indented. -/

namespace TemplateEngine.Yaml

/-- Whether a plain scalar starts here. Hyphens, question marks and colons start one only before a
character that can go on with it. -/
def startsPlain (flow : Bool) : List Char → Bool
  | [] => false
  | c :: rest =>
    if c = '-' then !rest.head?.any isBlank
    else if c = '?' || c = ':' then !flow && !endsWord rest
    else
      !(isBlank c || isBreak c || isFlowIndicator c ||
        c ∈ ['#', '&', '*', '!', '|', '>', '\'', '"', '%', '@', '\x60'])

/-- The word at a place, which may be empty. In flow collections a colon must not stand directly
before an indicator. -/
def takePlainWord? (flow : Bool) : List Char → Option (List Char)
  | [] => some []
  | c :: rest =>
    if isBlank c || isBreak c then some []
    else if flow && c = ':' && rest.head?.any (fun d => isFlowIndicator d || d = '?') then none
    else if c = ':' && endsWord rest || flow && isFlowIndicator c then some []
    else (takePlainWord? flow rest).map (c :: ·)

/-- A plain scalar with the gap before it, and whether a line end comes after it. In blocks it goes
on in lines indented to column `least`. -/
def takePlain? (flow : Bool) (least : Nat) :
    (fuel : Nat) → Gap → Cursor → Option (List Char × Bool × Cursor)
  | 0, _, _ => none
  | fuel + 1, gap, c =>
    let lineEnded := gap.breaks ≠ []
    if c.atMarker || c.next? = some '#' then some ([], lineEnded, c)
    else do
      let word ← takePlainWord? flow c.rest
      if word = [] then some ([], lineEnded, c)
      else
        let c := c.advance word.length
        if c.rest = [] || !endsWord c.rest then some (gap.text ++ word, false, c)
        else
          let (after, c) ← c.takeGap? least fuel
          if !flow && c.column < least then some (gap.text ++ word, after.breaks ≠ [], c)
          else
            let (text, lineEnded, c) ← takePlain? flow least fuel after c
            some (gap.text ++ word ++ text, lineEnded, c)

end TemplateEngine.Yaml
