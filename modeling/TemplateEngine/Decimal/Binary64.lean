/-! # Finite binary floating-point numbers

A number is a mantissa of up to 53 bits times a power of two, and arithmetic is exact arithmetic
followed by one rounding to nearest, where a tie goes to the even mantissa. -/

namespace TemplateEngine

/-- The number `± mantissa · 2 ^ exponent`, with the least exponent from -1074 up that leaves the
mantissa below `2 ^ 53`. -/
structure Binary64 where
  negative : Bool
  mantissa : Nat
  exponent : Int
  deriving DecidableEq, Repr

namespace Binary64

/-- The bound of all mantissas, `2 ^ 53`. -/
def mantissaBound : Nat := 0x20000000000000

/-- The least mantissa of 53 bits, `2 ^ 52`. -/
def fullMantissa : Nat := 0x10000000000000

def leastExponent : Int := -1074

def greatestExponent : Int := 971

def zero (negative : Bool) : Binary64 :=
  ⟨negative, 0, leastExponent⟩

/-- The integer nearest to a quotient; a half goes to the even neighbour. -/
def roundQuotient (num den : Nat) : Nat :=
  let floor := num / den
  let twice := 2 * (num % den)
  if twice < den ∨ twice = den ∧ floor % 2 = 0 then floor else floor + 1

/-- The quotient `num / (den · base ^ power)` as numerator and denominator. -/
def scaled (base : Nat) (num den : Nat) (power : Int) : Nat × Nat :=
  if 0 ≤ power then (num, den * base.pow power.toNat) else (num * base.pow (-power).toNat, den)

/-- The greatest power of two that leaves a quotient at least the full mantissa, but not below the
least exponent. -/
def exponentOf (num den : Nat) : Int :=
  let low : Int := (num.log2 : Int) - den.log2 - 53
  let (n, d) := scaled 2 num den low
  max (if n / d < mantissaBound then low else low + 1) leastExponent

/-- The number nearest to `± num / den`, if it is not too large. -/
def ofRatio? (negative : Bool) (num den : Nat) : Option Binary64 :=
  if num = 0 then some (zero negative)
  else
    let exponent := exponentOf num den
    let (n, d) := scaled 2 num den exponent
    let mantissa := roundQuotient n d
    let (mantissa, exponent) :=
      if mantissa = mantissaBound then (fullMantissa, exponent + 1) else (mantissa, exponent)
    if exponent ≤ greatestExponent then some ⟨negative, mantissa, exponent⟩ else none

/-- The number nearest to `± coefficient · 10 ^ power`, if it is not too large. What is below
`10 ^ -330` is nearest to zero, and what is not below `10 ^ 310` is too large. -/
def ofDecimal? (negative : Bool) (coefficient : Nat) (power : Int) : Option Binary64 :=
  let size : Int := (Nat.toDigits 10 coefficient).length + power
  if coefficient = 0 ∨ size < -330 then some (zero negative)
  else if 310 < size then none
  else
    let (n, d) := scaled 10 coefficient 1 (-power)
    ofRatio? negative n d

/-- The magnitude as numerator and denominator. -/
def ratio (x : Binary64) : Nat × Nat :=
  scaled 2 x.mantissa 1 (-x.exponent)

def mul? (x y : Binary64) : Option Binary64 :=
  ofRatio? (x.negative ^^ y.negative) (x.ratio.1 * y.ratio.1) (x.ratio.2 * y.ratio.2)

/-- The quotient by a number other than zero. -/
def div? (x y : Binary64) : Option Binary64 :=
  ofRatio? (x.negative ^^ y.negative) (x.ratio.1 * y.ratio.2) (x.ratio.2 * y.ratio.1)

/-- The power of ten nearest to `10 ^ n`, which is finite up to `n = 308`. -/
def powerOfTen? (n : Nat) : Option Binary64 :=
  ofRatio? false (Nat.pow 10 n) 1

/-- Divides by `10 ^ n` in steps of at most 308 places, and rounds at each. -/
def divPowerOfTen? (x : Binary64) (n : Nat) : Option Binary64 :=
  if n ≤ 308 then do x.div? (← powerOfTen? n)
  else if x.mantissa = 0 then some x
  else do
    let y ← x.div? (← powerOfTen? 308)
    divPowerOfTen? y (n - 308)
termination_by n

/-- Scales by a power of ten: the number and the power are rounded each for itself, and their
product or quotient once more. -/
def scaleByTen? (x : Binary64) (power : Int) : Option Binary64 :=
  if 0 ≤ power then
    if power ≤ 308 then do x.mul? (← powerOfTen? power.toNat)
    else if x.mantissa = 0 then some x
    else none
  else divPowerOfTen? x (-power).toNat

end Binary64

end TemplateEngine
