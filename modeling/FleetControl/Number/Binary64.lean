/-!
# Double precision numbers

A double is either not a number, an infinity, or a sign together with an exact magnitude
`mantissa * 2 ^ exponent`. Everything is exact natural number arithmetic: a quotient is rounded
once, to the nearest double with ties to even, and no machine floating point operation is involved.
-/

namespace FleetControl.Number

/-- A double precision number. A finite value is `mantissa * 2 ^ exponent`, with its sign apart so
that the two zeros stay distinct. -/
inductive Binary64 where
  | nan
  | infinite (negative : Bool)
  | finite (negative : Bool) (mantissa : Nat) (exponent : Int)
deriving DecidableEq, Repr, Inhabited

/-- The quotient of two natural numbers, rounded to the nearest one; a half goes to the even
neighbour. -/
def divRoundHalfEven (numerator denominator : Nat) : Nat :=
  let quotient := numerator / denominator
  let twice := 2 * (numerator % denominator)
  if twice < denominator then quotient
  else if denominator < twice then quotient + 1
  else if quotient % 2 = 0 then quotient else quotient + 1

/-- The greatest `e` with `2 ^ e ≤ numerator / denominator`, for positive arguments. -/
def floorLog2 (numerator denominator : Nat) : Int :=
  let guess : Int := (numerator.log2 : Int) - (denominator.log2 : Int)
  let reached :=
    if 0 ≤ guess then denominator * Nat.pow 2 guess.toNat ≤ numerator
    else denominator ≤ numerator * Nat.pow 2 (-guess).toNat
  if reached then guess else guess - 1

namespace Binary64

/-- The least exponent of a double's last bit. -/
def minExponent : Int := -1074

/-- The least mantissa that takes up all 53 bits. -/
def leastFullMantissa : Nat := 0x10000000000000

/-- The nearest double to a nonnegative quotient, with the given sign. Quotients of `2 ^ 1024` and
more, after rounding, are infinite. -/
def ofRatio (negative : Bool) (numerator denominator : Nat) : Binary64 :=
  if numerator = 0 then .finite negative 0 0
  else
    let exponent := max (floorLog2 numerator denominator - 52) minExponent
    let mantissa :=
      if 0 ≤ exponent then divRoundHalfEven numerator (denominator * Nat.pow 2 exponent.toNat)
      else divRoundHalfEven (numerator * Nat.pow 2 (-exponent).toNat) denominator
    let (mantissa, exponent) :=
      if mantissa = 2 * leastFullMantissa then (leastFullMantissa, exponent + 1)
      else (mantissa, exponent)
    if 971 < exponent then .infinite negative else .finite negative mantissa exponent

/-- The nearest double to a natural number. -/
def ofNat (n : Nat) : Binary64 := ofRatio false n 1

/-- The nearest double to `digits * 10 ^ exponent`. Exponents far outside the range of doubles are
settled without computing the power. -/
def ofDecimal (negative : Bool) (digits : Nat) (exponent : Int) : Binary64 :=
  if digits = 0 then .finite negative 0 0
  else
    let magnitude : Int := (Nat.toDigits 10 digits).length + exponent
    if 400 < magnitude then .infinite negative
    else if magnitude < -400 then .finite negative 0 0
    else if 0 ≤ exponent then ofRatio negative (digits * Nat.pow 10 exponent.toNat) 1
    else ofRatio negative digits (Nat.pow 10 (-exponent).toNat)

/-- Numerator and denominator of a finite magnitude. -/
def ratio (mantissa : Nat) (exponent : Int) : Nat × Nat :=
  if 0 ≤ exponent then (mantissa * Nat.pow 2 exponent.toNat, 1)
  else (mantissa, Nat.pow 2 (-exponent).toNat)

/-- The quotient of a finite magnitude by a positive natural number, rounded again to a double. -/
def divNat (x : Binary64) (divisor : Nat) : Binary64 :=
  match x with
  | .finite negative mantissa exponent =>
      let (numerator, denominator) := ratio mantissa exponent
      ofRatio negative numerator (denominator * divisor)
  | other => other

/-- Whether the value is a zero of either sign. What is not a number is not zero. -/
def isZero : Binary64 → Bool
  | .finite _ 0 _ => true
  | _ => false

/-- The nearest integer, a half going away from zero, clamped to `0 … limit`. What is not a number
gives zero. -/
def toNatClamped (x : Binary64) (limit : Nat) : Nat :=
  match x with
  | .nan => 0
  | .infinite negative => if negative then 0 else limit
  | .finite true _ _ => 0
  | .finite false mantissa exponent =>
      let (numerator, denominator) := ratio mantissa exponent
      min limit ((2 * numerator + denominator) / (2 * denominator))

end Binary64

end FleetControl.Number
