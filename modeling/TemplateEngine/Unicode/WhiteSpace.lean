import TemplateEngine.Unicode.Ranges

/-! # White space

The code points with the property `White_Space`, and the removal of white space at the ends of a
text. -/

namespace TemplateEngine.Unicode

/-- Ranges of the property `White_Space`. -/
def whiteSpace : Ranges :=
  [(0x9, 0xD), (0x20, 0x20), (0x85, 0x85), (0xA0, 0xA0), (0x1680, 0x1680), (0x2000, 0x200A),
   (0x2028, 0x2029), (0x202F, 0x202F), (0x205F, 0x205F), (0x3000, 0x3000)]

def isWhiteSpace (c : Char) : Bool :=
  whiteSpace.contains c

def trim (text : String) : String :=
  String.ofList ((text.toList.dropWhile isWhiteSpace).reverse.dropWhile isWhiteSpace).reverse

end TemplateEngine.Unicode
