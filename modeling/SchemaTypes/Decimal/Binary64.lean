/-!
# Finite binary floating-point numbers of 64 bits

A magnitude is a significand times a power of two, in the form the format stores: 53 bits of
significand, or fewer at the least exponent. A quotient of naturals is rounded to the nearest one, a
half going to the even significand; a result beyond the largest is refused.
-/

namespace SchemaTypes.Decimal
set_option autoImplicit false

/-- The magnitude `significand * 2 ^ exponent`. -/
structure Binary64 where
  significand : Nat
  exponent : Int
deriving DecidableEq, Repr

namespace Binary64

/-- The bits of a full significand. -/
def precision : Nat := 53

/-- The least exponent, at which significands may be short. -/
def minExponent : Int := -1074

/-- The largest exponent. -/
def maxExponent : Int := 971

/-- Zero. -/
def zero : Binary64 := ⟨0, minExponent⟩

/-- The nearest natural to `num / den`; a half goes to the even one. -/
def roundQuotient (num den : Nat) : Nat :=
  let whole := num / den
  let twice := 2 * (num % den)
  if den < twice || (twice == den && whole % 2 == 1) then whole + 1 else whole

/-- `num / den` in units of `2 ^ exponent`, as a quotient of naturals. -/
def scaled (num den : Nat) (exponent : Int) : Nat × Nat :=
  if 0 ≤ exponent then (num, den * Nat.pow 2 exponent.toNat) else (num * Nat.pow 2 (-exponent).toNat, den)

/-- The exponent at which `num / den` has a significand of full width, or the least one. -/
def exponentFor (num den : Nat) : Int :=
  let guess : Int := (num.log2 : Int) - den.log2 - precision
  let (n, d) := scaled num den guess
  max minExponent (if n / d < Nat.pow 2 precision then guess else guess + 1)

/-- The nearest magnitude to `num / den`, or `none` beyond the largest. -/
def ofQuotient (num den : Nat) : Option Binary64 :=
  if num = 0 then some zero
  else
    let exponent := exponentFor num den
    let (n, d) := scaled num den exponent
    let significand := roundQuotient n d
    let (significand, exponent) :=
      if significand = Nat.pow 2 precision then (Nat.pow 2 (precision - 1), exponent + 1)
      else (significand, exponent)
    if maxExponent < exponent then none else some ⟨significand, exponent⟩

/-- The magnitude as a quotient of naturals. -/
def quotient (x : Binary64) : Nat × Nat :=
  if 0 ≤ x.exponent then (x.significand * Nat.pow 2 x.exponent.toNat, 1)
  else (x.significand, Nat.pow 2 (-x.exponent).toNat)

/-- The rounded product. -/
def mul (x y : Binary64) : Option Binary64 :=
  let (a, b) := x.quotient
  let (c, d) := y.quotient
  ofQuotient (a * c) (b * d)

/-- The rounded quotient; `y` is not zero. -/
def div (x y : Binary64) : Option Binary64 :=
  let (a, b) := x.quotient
  let (c, d) := y.quotient
  ofQuotient (a * d) (b * c)

end Binary64

/-- The largest power of ten within the range of the format. -/
def maxPower : Nat := 308

/-- The nearest magnitude to `10 ^ n`. -/
def powerOfTen (n : Nat) : Option Binary64 :=
  Binary64.ofQuotient (Nat.pow 10 n) 1

/-- `x` divided `times` times by the largest power of ten; zero stays zero. -/
def shrink : Nat → Binary64 → Option Binary64
  | 0, x => some x
  | times + 1, x =>
    if x.significand = 0 then some x
    else do
      let power ← powerOfTen maxPower
      let smaller ← x.div power
      shrink times smaller

/-- `x * 10 ^ exponent`, rounded after each multiplication or division with a power of ten, the largest
ones first; `none` beyond the largest magnitude. -/
def scaleByTen (x : Binary64) (exponent : Int) : Option Binary64 :=
  let steps := exponent.natAbs
  if exponent < 0 then do
    let smaller ← shrink ((steps - 1) / maxPower) x
    let power ← powerOfTen (steps - (steps - 1) / maxPower * maxPower)
    smaller.div power
  else if steps ≤ maxPower then do
    let power ← powerOfTen steps
    x.mul power
  else if x.significand = 0 then some x
  else none

end SchemaTypes.Decimal
