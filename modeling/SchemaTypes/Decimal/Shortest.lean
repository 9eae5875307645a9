import SchemaTypes.Decimal.Binary64

/-!
# Shortest decimals

The decimal of a magnitude has the fewest digits that still round to it, and of these is the nearest
to it. For one digit count after the other the two neighbours of the magnitude on that decimal grid
are tried; the first grid with a hit gives the answer.
-/

namespace SchemaTypes.Decimal
set_option autoImplicit false

/-- `digits * 10 ^ exponent`. -/
structure Scientific where
  digits : Nat
  exponent : Int
deriving DecidableEq, Repr

/-- The decimal as a quotient of naturals. -/
def Scientific.quotient (x : Scientific) : Nat × Nat :=
  if 0 ≤ x.exponent then (x.digits * Nat.pow 10 x.exponent.toNat, 1)
  else (x.digits, Nat.pow 10 (-x.exponent).toNat)

/-- `a / b ≤ c / d`. -/
def quotientLe (x y : Nat × Nat) : Bool :=
  x.1 * y.2 ≤ y.1 * x.2

namespace Binary64

/-- Twice the significands of the two ends of the interval that rounds to `x`, in quarters of a unit. -/
def ends (x : Binary64) : Nat × Nat :=
  let low := if x.significand = Nat.pow 2 (precision - 1) ∧ minExponent < x.exponent then 1 else 2
  (4 * x.significand - low, 4 * x.significand + 2)

/-- Whether the quotient `d` rounds to `x`; the ends belong to an even significand. -/
def rounds (x : Binary64) (d : Nat × Nat) : Bool :=
  let quarter (n : Nat) : Nat × Nat :=
    let (a, b) := quotient ⟨n, x.exponent⟩
    (a, 4 * b)
  let (low, high) := x.ends
  if x.significand % 2 = 0 then quotientLe (quarter low) d && quotientLe d (quarter high)
  else !quotientLe d (quarter low) && !quotientLe (quarter high) d

/-- The power of ten at or below a positive magnitude. -/
def leadingPower (x : Binary64) : Int :=
  let (a, b) := x.quotient
  if b ≤ a then ((Nat.toDigits 10 (a / b)).length : Int) - 1
  else
    let guess := (Nat.toDigits 10 (b / a)).length
    if b ≤ a * Nat.pow 10 (guess - 1) then 1 - (guess : Int) else -(guess : Int)

/-- The decimal with `count` digits that rounds to `x`, the nearer one where two do; a tie goes to the
even digits. -/
def decimalWith? (x : Binary64) (count : Nat) : Option Scientific :=
  let exponent := x.leadingPower - ((count : Int) - 1)
  let (a, b) := x.quotient
  let (n, d) := if 0 ≤ exponent then (a, b * Nat.pow 10 exponent.toNat) else (a * Nat.pow 10 (-exponent).toNat, b)
  let below : Scientific := ⟨n / d, exponent⟩
  let above : Scientific := ⟨n / d + 1, exponent⟩
  let twice := 2 * (n % d)
  match x.rounds below.quotient, x.rounds above.quotient with
  | true, true =>
    if twice < d || (twice == d && below.digits % 2 == 0) then some below else some above
  | true, false => some below
  | false, true => some above
  | false, false => none

/-- The shortest decimal that rounds to a positive magnitude; seventeen digits are always enough. -/
def shortest (x : Binary64) : Scientific :=
  ((List.range 17).findSome? fun n => x.decimalWith? (n + 1)).getD ⟨0, 0⟩

end Binary64

/-- The text of a magnitude: positional from `0.00001` up to sixteen digits before the point and always
with a fraction, otherwise one digit, a fraction if there is one, and an exponent with its sign. -/
def spell (x : Binary64) : String :=
  if x.significand = 0 then "0.0"
  else
    let decimal := x.shortest
    let all := Nat.toDigits 10 decimal.digits
    let digits := (all.reverse.dropWhile (· == '0')).reverse
    let power : Int := decimal.exponent + all.length - 1
    if power < -5 || 15 < power then
      let fraction := if digits.length ≤ 1 then "" else "." ++ String.ofList digits.tail
      let sign := if power < 0 then "-" else "+"
      String.ofList (digits.take 1) ++ fraction ++ "e" ++ sign ++ toString power.natAbs
    else if power < 0 then
      "0." ++ String.ofList (List.replicate (power.natAbs - 1) '0') ++ String.ofList digits
    else
      let whole := digits.take (power.toNat + 1)
      let fraction := digits.drop (power.toNat + 1)
      String.ofList whole ++ String.ofList (List.replicate (power.toNat + 1 - whole.length) '0') ++ "."
        ++ (if fraction.isEmpty then "0" else String.ofList fraction)

end SchemaTypes.Decimal
