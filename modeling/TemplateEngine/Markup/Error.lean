import TemplateEngine.Markup.Position

/-! # Errors in markup

What can be wrong with markup, and where. A place is the text from there on while the markup is
read, and a position afterwards. -/

namespace TemplateEngine

inductive MarkupError (Place : Type) where
  | unknownToken (token : Char) (place : Place)
  | unterminatedString (place : Place)
  /-- A display tag is not closed where `found` stands, or where the text ends. -/
  | unclosedTag (opened : Place) (found : Option Char) (place : Place)
  | unterminatedComment (opened : Place)
  | statementTag (place : Place)
  | expectedFilterName (place : Place)
  | nestingTooDeep (limit : Nat) (place : Place)
  | duplicateArgument (name : String) (place : Place)
  deriving DecidableEq, Repr

namespace MarkupError

variable {Place : Type}

def map {Other : Type} (f : Place → Other) : MarkupError Place → MarkupError Other
  | .unknownToken token place => .unknownToken token (f place)
  | .unterminatedString place => .unterminatedString (f place)
  | .unclosedTag opened found place => .unclosedTag (f opened) found (f place)
  | .unterminatedComment opened => .unterminatedComment (f opened)
  | .statementTag place => .statementTag (f place)
  | .expectedFilterName place => .expectedFilterName (f place)
  | .nestingTooDeep limit place => .nestingTooDeep limit (f place)
  | .duplicateArgument name place => .duplicateArgument name (f place)

/-- Where the error was met. -/
def place : MarkupError Place → Place
  | .unknownToken _ place => place
  | .unterminatedString place => place
  | .unclosedTag _ _ place => place
  | .unterminatedComment opened => opened
  | .statementTag place => place
  | .expectedFilterName place => place
  | .nestingTooDeep _ place => place
  | .duplicateArgument _ place => place

def foundText : Option Char → String
  | some c => "`" ++ String.singleton c ++ "`"
  | none => "end of input"

def message : MarkupError Position → String
  | .unknownToken token place =>
    "unknown token `" ++ String.singleton token ++ "` at " ++ place.text
  | .unterminatedString place => "unterminated string literal starting at " ++ place.text
  | .unclosedTag opened found place =>
    "display tag opened at " ++ opened.text ++ " is not closed (found " ++ foundText found ++
      " at " ++ place.text ++ ")"
  | .unterminatedComment opened => "comment opened at " ++ opened.text ++ " is not closed"
  | .statementTag place => "statement tags are not implemented yet (at " ++ place.text ++ ")"
  | .expectedFilterName place => "expected a filter name at " ++ place.text
  | .nestingTooDeep limit place =>
    "expression nesting exceeds " ++ limit.repr ++ " levels at " ++ place.text
  | .duplicateArgument name place =>
    "argument `" ++ name ++ "` is named more than once (at " ++ place.text ++ ")"

end MarkupError

end TemplateEngine
