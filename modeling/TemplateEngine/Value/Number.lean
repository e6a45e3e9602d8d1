import TemplateEngine.Decimal.Shortest
import TemplateEngine.Json.Basic

/-! # Numbers of values

An integer of at most 64 bits stays exact, every other number is a binary floating-point number.
The layout of a number's text depends on the number alone. -/

namespace TemplateEngine

inductive Number where
  | int (value : Int)
  | float (value : Binary64)
  deriving DecidableEq, Repr

namespace Number

/-- The bound of integers without sign, `2 ^ 64`. -/
def wordBound : Nat := 0x10000000000000000

/-- The bound of integers with sign, `2 ^ 63`. -/
def signBound : Nat := 0x8000000000000000

/-- Appends digits to a coefficient as long as it stays an integer of 64 bits, and leaves the
others. -/
def takeDigits : (coefficient : Nat) → List Char → Nat × List Char
  | coefficient, [] => (coefficient, [])
  | coefficient, c :: digits =>
    let next := 10 * coefficient + (c.toNat - '0'.toNat)
    if next < wordBound then takeDigits next digits else (coefficient, c :: digits)

def natOfDigits (digits : List Char) : Nat :=
  digits.foldl (fun n c => 10 * n + (c.toNat - '0'.toNat)) 0

/-- The exponent that a numeral states. -/
def statedExponent (numeral : Numeral) : Int :=
  match numeral.exponent with
  | none => 0
  | some (true, digits) => -natOfDigits digits
  | some (false, digits) => natOfDigits digits

/-- A numeral is read as floating-point number by the leading digits that fit into 64 bits, scaled
by the power of ten that the others, the point and the exponent make. -/
def readFloat? (numeral : Numeral) : Option Binary64 := do
  let (coefficient, ignored) := takeDigits 0 numeral.whole
  let (coefficient, rest) := takeDigits coefficient numeral.fraction
  let places : Int := numeral.fraction.length - rest.length
  let x ← Binary64.ofRatio? numeral.negative coefficient 1
  x.scaleByTen? (ignored.length - places + statedExponent numeral)

/-- The number that a numeral stands for, unless it is too large. A numeral without fraction and
exponent is an integer if it fits into 64 bits, with or without sign; minus zero is not an
integer. -/
def ofNumeral? (numeral : Numeral) : Option Number :=
  let n := natOfDigits numeral.whole
  let integral := numeral.fraction = [] ∧ numeral.exponent = none
  if integral ∧ ¬numeral.negative ∧ n < wordBound then some (.int n)
  else if integral ∧ numeral.negative ∧ 0 < n ∧ n ≤ signBound then some (.int (-n))
  else (readFloat? numeral).map .float

/-- Numbers from `10 ^ -5` to below `10 ^ 16` are written without exponent, and then with a digit
after the point. -/
def layout (negative : Bool) (digits : List Char) (magnitude : Int) : Numeral :=
  if -5 ≤ magnitude ∧ magnitude ≤ 15 then
    if magnitude < 0 then
      ⟨negative, ['0'], List.replicate (-magnitude - 1).toNat '0' ++ digits, none⟩
    else
      let places := magnitude.toNat + 1
      let whole := digits.take places ++ List.replicate (places - digits.length) '0'
      let fraction := digits.drop places
      ⟨negative, whole, if fraction = [] then ['0'] else fraction, none⟩
  else
    ⟨negative, digits.take 1, digits.drop 1,
      some (magnitude < 0, Nat.toDigits 10 magnitude.natAbs)⟩

def toNumeral : Number → Numeral
  | .int n => ⟨n < 0, Nat.toDigits 10 n.natAbs, [], none⟩
  | .float x => layout x.negative x.shortest.digits x.shortest.magnitude

end Number

end TemplateEngine
