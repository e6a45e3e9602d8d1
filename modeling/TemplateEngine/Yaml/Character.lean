/-! # Characters of YAML

The classes of characters that part a text into lines and words. -/

namespace TemplateEngine.Yaml

/-- A text holds no control characters but tab, line feed, carriage return and next line. -/
def isPrintable (c : Char) : Bool :=
  c = '\t' || c = '\n' || c = '\r' || c = '\u0085' || (' ' ≤ c && c ≤ '~') ||
    ('\u00a0' ≤ c && c ≤ '\ufffd') || 0x10000 ≤ c.toNat

def isBlank (c : Char) : Bool :=
  c = ' ' || c = '\t'

/-- Line feed, carriage return, next line, and the separators of lines and paragraphs. -/
def isBreak (c : Char) : Bool :=
  c ∈ ['\n', '\r', '\u0085', '\u2028', '\u2029']

/-- A line end counts as line feed, but for the separators, which stay what they are. -/
def breakValue (c : Char) : Char :=
  if c = '\u2028' || c = '\u2029' then c else '\n'

/-- The commas and brackets of flow collections. -/
def isFlowIndicator (c : Char) : Bool :=
  c ∈ [',', '[', ']', '\x7b', '\x7d']

/-- The characters of names: anchors, handles of tags and directives have names. -/
def isNameChar (c : Char) : Bool :=
  c.isAlphanum || c = '_' || c = '-'

/-- The characters of addresses, which are what tags are named by. -/
def isAddressChar (c : Char) : Bool :=
  isNameChar c ||
    c ∈ [';', '/', '?', ':', '@', '&', '=', '+', '$', '.', '!', '~', '*', '\'', '(', ')']

/-- Whether a word can end before this text: at its end, a blank or a line end. -/
def endsWord : List Char → Bool
  | [] => true
  | c :: _ => isBlank c || isBreak c

/-- Three hyphens mark the start of a document, and three points its end. -/
def isMarker (mark : Char) (s : List Char) : Bool :=
  s.take 3 = [mark, mark, mark] && endsWord (s.drop 3)

end TemplateEngine.Yaml
