import FleetControl.Number.Binary64

/-!
# Decimal text of numbers

Two ways to write a double in base ten: with the fewest digits that read back as the same double,
and with a fixed number of decimal places. Neither uses an exponent. Also the plain and the
hexadecimal numerals of natural numbers, and zero padding.
-/

namespace FleetControl.Number

/-- The text of a natural number in base ten. -/
def decimal (n : Nat) : String := String.ofList (Nat.toDigits 10 n)

/-- The text of an integer in base ten, with a minus sign where it is negative. -/
def signedDecimal (n : Int) : String :=
  if n < 0 then "-" ++ decimal n.natAbs else decimal n.natAbs

/-- The text of a natural number in base sixteen, in lower case and without a marker. -/
def hexadecimal (n : Nat) : String := String.ofList (Nat.toDigits 16 n)

/-- The decimal numeral of `n`, filled up on the left with zeros to at least `width` characters. -/
def zeroPadded (width n : Nat) : String :=
  let digits := Nat.toDigits 10 n
  String.ofList (List.replicate (width - digits.length) '0' ++ digits)

namespace Binary64

/-- A decimal `digits * 10 ^ exponent`. -/
structure Decimal where
  digits : Nat
  exponent : Int
deriving DecidableEq, Repr

/-- Compares `digits * 10 ^ exponent` with `numerator / denominator`. -/
def compareDecimal (d : Decimal) (numerator denominator : Nat) : Ordering :=
  if 0 ≤ d.exponent then
    compare (d.digits * Nat.pow 10 d.exponent.toNat * denominator) numerator
  else
    compare (d.digits * denominator) (numerator * Nat.pow 10 (-d.exponent).toNat)

/-- Whether the decimal lies among the reals that round to `mantissa * 2 ^ exponent`. The ends of
that interval belong to it exactly when the mantissa is even; below a power of two the interval
reaches only half as far. -/
def readsBack (mantissa : Nat) (exponent : Int) (d : Decimal) : Bool :=
  let narrow := mantissa = leastFullMantissa ∧ minExponent < exponent
  let (lowNumerator, lowDenominator) :=
    if narrow then ratio (4 * mantissa - 1) (exponent - 2) else ratio (2 * mantissa - 1) (exponent - 1)
  let (highNumerator, highDenominator) := ratio (2 * mantissa + 1) (exponent - 1)
  let even := mantissa % 2 = 0
  let aboveLow :=
    match compareDecimal d lowNumerator lowDenominator with
    | .gt => true
    | .eq => even
    | .lt => false
  let belowHigh :=
    match compareDecimal d highNumerator highDenominator with
    | .lt => true
    | .eq => even
    | .gt => false
  aboveLow && belowHigh

/-- The number of decimal digits of the integer part of `numerator / denominator`, or zero or less
where the quotient is below one: the `k` with `10 ^ (k - 1) ≤ numerator / denominator < 10 ^ k`. -/
def decimalPoint (numerator denominator : Nat) : Int :=
  if denominator ≤ numerator then ((Nat.toDigits 10 (numerator / denominator)).length : Int)
  else go 400 0 numerator
where
  /-- Scales the numerator up until the quotient reaches one tenth. -/
  go : Nat → Int → Nat → Int
    | 0, point, _ => point
    | fuel + 1, point, scaled =>
        if denominator ≤ scaled * 10 then point else go fuel (point - 1) (scaled * 10)

/-- The two neighbours of a positive quotient on the grid of `count` significant digits, the nearer
one first; of two equally near ones the even one first. -/
def neighbours (numerator denominator : Nat) (count : Nat) : Decimal × Decimal :=
  let exponent := decimalPoint numerator denominator - (count : Int)
  let (scaledNumerator, scaledDenominator) :=
    if 0 ≤ exponent then (numerator, denominator * Nat.pow 10 exponent.toNat)
    else (numerator * Nat.pow 10 (-exponent).toNat, denominator)
  let below := scaledNumerator / scaledDenominator
  let nearest := divRoundHalfEven scaledNumerator scaledDenominator
  let other := if nearest = below then below + 1 else below
  (⟨nearest, exponent⟩, ⟨other, exponent⟩)

/-- The decimal with the fewest digits that reads back as the positive double
`mantissa * 2 ^ exponent`, and the nearest of those. Seventeen digits always suffice. -/
def shortestDecimal (mantissa : Nat) (exponent : Int) : Decimal :=
  let (numerator, denominator) := ratio mantissa exponent
  let hit? (count : Nat) : Option Decimal :=
    let (nearer, farther) := neighbours numerator denominator count
    if readsBack mantissa exponent nearer then some nearer
    else if readsBack mantissa exponent farther then some farther
    else none
  ((List.range 17).findSome? fun count => hit? (count + 1)).getD
    (neighbours numerator denominator 17).1

/-- Writes `digits * 10 ^ exponent` without an exponent: zeros are appended, or a decimal point is
put in and trailing zeros after it are dropped. -/
def Decimal.positional (d : Decimal) : String :=
  if 0 ≤ d.exponent then
    String.ofList (Nat.toDigits 10 d.digits ++ List.replicate d.exponent.toNat '0')
  else
    let places := (-d.exponent).toNat
    let scale := Nat.pow 10 places
    let fraction := (zeroPadded places (d.digits % scale)).toList.reverse.dropWhile (· = '0')
    let whole := decimal (d.digits / scale)
    if fraction = [] then whole else whole ++ "." ++ String.ofList fraction.reverse

/-- The shortest text of a double, without an exponent: `1000`, `2.5`, `-0`, `inf`, `NaN`. -/
def text : Binary64 → String
  | .nan => "NaN"
  | .infinite negative => if negative then "-inf" else "inf"
  | .finite negative mantissa exponent =>
      let magnitude :=
        if mantissa = 0 then "0" else (shortestDecimal mantissa exponent).positional
      if negative then "-" ++ magnitude else magnitude

/-- The text of a nonnegative quotient with exactly `places` decimals; a half goes to the even
neighbour. -/
def fixedPlaces (numerator denominator places : Nat) : String :=
  let scale := Nat.pow 10 places
  let scaled := divRoundHalfEven (numerator * scale) denominator
  let whole := decimal (scaled / scale)
  if places = 0 then whole else whole ++ "." ++ zeroPadded places (scaled % scale)

end Binary64

end FleetControl.Number
