/-!
# Machine words

Which integers fit a machine word, and sums and products of words whose result must fit the word
again. A result that does not fit is an overflow, never a wrapped value.
-/

namespace FleetControl.Number

/-- How many words of the given number of bits there are: without a sign, they are the numbers below. -/
def wordCount (bits : Nat) : Nat := Nat.pow 2 bits

/-- The least positive integer that does not fit a word of 64 bits with a sign. -/
def signedBound : Int := 0x8000000000000000

/-- The integer fits a word of 64 bits with a sign. -/
def fitsSigned (n : Int) : Bool := -signedBound ≤ n && n < signedBound

/-- The operation whose result did not fit its word. -/
inductive Overflow where
  | add
  | multiply
deriving DecidableEq, Repr

/-- The text with which a task ends when an operation overflows. -/
def Overflow.message : Overflow → String
  | .add => "attempt to add with overflow"
  | .multiply => "attempt to multiply with overflow"

/-- The sum of two words of the given number of bits. -/
def addWithin (bits a b : Nat) : Except Overflow Nat :=
  if a + b < wordCount bits then .ok (a + b) else .error .add

/-- The product of two words of the given number of bits. -/
def multiplyWithin (bits a b : Nat) : Except Overflow Nat :=
  if a * b < wordCount bits then .ok (a * b) else .error .multiply

end FleetControl.Number
