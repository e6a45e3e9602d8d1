/-! # Ranges of code points

A property of characters is given by the ranges of code points that have it. -/

namespace TemplateEngine.Unicode

/-- First and last code points of ranges, in increasing order. -/
abbrev Ranges := List (Nat × Nat)

def Ranges.covers : Ranges → Nat → Bool
  | [], _ => false
  | (first, last) :: ranges, code =>
    if code < first then false
    else if code ≤ last then true
    else covers ranges code

def Ranges.contains (ranges : Ranges) (c : Char) : Bool :=
  ranges.covers c.toNat

end TemplateEngine.Unicode
