import TemplateEngine.Decimal.Binary64

/-! # Shortest decimals

Of the decimals that read back as a given number, the one with the fewest digits, and of several
with as few the one nearest to the number. -/

namespace TemplateEngine

/-- The number `coefficient · 10 ^ power`. -/
structure Decimal where
  coefficient : Nat
  power : Int
  deriving DecidableEq, Repr

namespace Decimal

def digits (x : Decimal) : List Char :=
  Nat.toDigits 10 x.coefficient

/-- The power of ten of the first digit. -/
def magnitude (x : Decimal) : Int :=
  x.power + x.digits.length - 1

/-- Drops the zeros at the end of the coefficient, of which there are at most `fuel`. -/
def dropZeros : (fuel : Nat) → Decimal → Decimal
  | 0, x => x
  | fuel + 1, x =>
    if x.coefficient % 10 = 0 then dropZeros fuel ⟨x.coefficient / 10, x.power + 1⟩ else x

end Decimal

namespace Binary64

/-- Compares `num / den` with `coefficient · 10 ^ power`. -/
def compareDecimal (num den : Nat) (x : Decimal) : Ordering :=
  let (n, d) := scaled 10 num den x.power
  compare n (x.coefficient * d)

/-- Whether a decimal is read as the magnitude of the number: it lies between the points halfway
to the two neighbours, which themselves are read as the number with the even mantissa. Distances are
counted in quarters of that to the next number above. -/
def readsBack (x : Binary64) (y : Decimal) : Bool :=
  let (num, den) := x.ratio
  let below := if x.mantissa = fullMantissa ∧ leastExponent < x.exponent then 1 else 2
  let (quarter, unit) := scaled 2 1 4 (-x.exponent)
  let high := compareDecimal (num * unit + 2 * quarter * den) (den * unit) y
  let low := compareDecimal (num * unit - below * quarter * den) (den * unit) y
  if x.mantissa % 2 = 0 then high != .lt && low != .gt else high == .gt && low == .lt

/-- The power of ten of the first digit of `num / den`. -/
def magnitudeOf (num den : Nat) : Int :=
  let guess : Int := ((Nat.toDigits 10 num).length : Int) - (Nat.toDigits 10 den).length
  if compareDecimal num den ⟨1, guess⟩ == .lt then guess - 1 else guess

/-- The nearest decimal that reads back among the multiples of `10 ^ power`. -/
def onGrid? (x : Binary64) (power : Int) : Option Decimal :=
  let (num, den) := x.ratio
  let (n, d) := scaled 10 num den power
  let floor : Decimal := ⟨n / d, power⟩
  let ceiling : Decimal := ⟨n / d + 1, power⟩
  match x.readsBack floor, x.readsBack ceiling with
  | true, true => some (if roundQuotient n d = n / d then floor else ceiling)
  | true, false => some floor
  | false, true => some ceiling
  | false, false => none

/-- Tries grids of growing fineness; the last has room for 17 digits. -/
def shortestFrom (x : Binary64) : (steps : Nat) → (power : Int) → Decimal
  | 0, power => (x.onGrid? power).getD ⟨0, 0⟩
  | steps + 1, power =>
    match x.onGrid? power with
    | some y => y
    | none => shortestFrom x steps (power - 1)

/-- The shortest decimal that reads back as the magnitude of a number. -/
def shortest (x : Binary64) : Decimal :=
  if x.mantissa = 0 then ⟨0, 0⟩
  else (shortestFrom x 16 (magnitudeOf x.ratio.1 x.ratio.2)).dropZeros 17

end Binary64

end TemplateEngine
