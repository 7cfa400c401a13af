/-!
Double-precision numbers as exact data: a sign, a significand below 2^53 and an exponent of two.
A number written in decimal is read by exact integer arithmetic and rounded once.
-/

namespace SchemaSignature

/-- A double-precision number. `finite negative significand exponent` is the number
`± significand · 2 ^ exponent`; every finite value has one spelling, with the exponent `-1074` or
a significand of at least `2 ^ 52`. -/
inductive Double where
  | finite (negative : Bool) (significand : Nat) (exponent : Int)
  | infinite (negative : Bool)
  | notANumber
  deriving DecidableEq, Repr

namespace Double

def signedZero (negative : Bool) : Double :=
  .finite negative 0 (-1074)

/-- The quotient rounded to the nearest whole number, a half to the even neighbour. -/
def roundQuotient (numerator denominator : Nat) : Nat :=
  let quotient := numerator / denominator
  let remainder := numerator % denominator
  if 2 * remainder < denominator then quotient
  else if denominator < 2 * remainder then quotient + 1
  else quotient + quotient % 2

/-- The exponent of the highest power of two that a positive quotient reaches. -/
def binaryMagnitude (numerator denominator : Nat) : Int :=
  let guess : Int := (numerator.log2 : Int) - denominator.log2
  if denominator * Nat.pow 2 guess.toNat ≤ numerator * Nat.pow 2 (-guess).toNat then guess else guess - 1

/-- The double nearest to a quotient of natural numbers; beyond the largest one, infinity. -/
def ofQuotient (negative : Bool) (numerator denominator : Nat) : Double :=
  if numerator = 0 then signedZero negative
  else
    let exponent := max (binaryMagnitude numerator denominator - 52) (-1074)
    let rounded :=
      roundQuotient (numerator * Nat.pow 2 (-exponent).toNat)
        (denominator * Nat.pow 2 exponent.toNat)
    let (significand, exponent) :=
      if rounded = Nat.pow 2 53 then (Nat.pow 2 52, exponent + 1) else (rounded, exponent)
    if 971 < exponent then .infinite negative else .finite negative significand exponent

/-- The double nearest to `± digits · 10 ^ exponent`. Exponents far outside the range of doubles
are decided first, so that no huge power of ten is formed. -/
def ofDecimal (negative : Bool) (digits : Nat) (exponent : Int) : Double :=
  if digits = 0 then signedZero negative
  else if 310 < exponent then .infinite negative
  else if (digits.log2 : Int) + 1 + 3 * exponent < -1080 then signedZero negative
  else ofQuotient negative (digits * Nat.pow 10 exponent.toNat) (Nat.pow 10 (-exponent).toNat)

def isZero : Double → Bool
  | .finite _ significand _ => significand == 0
  | _ => false

def isNegative : Double → Bool
  | .finite negative significand _ => negative && significand != 0
  | .infinite negative => negative
  | .notANumber => false

/-- The whole number that the double equals, if there is one. -/
def toInt? : Double → Option Int
  | .finite negative significand exponent =>
      let scale := Nat.pow 2 (-exponent).toNat
      if significand % scale = 0 then
        let magnitude : Int := (significand / scale * Nat.pow 2 exponent.toNat : Nat)
        some (if negative then -magnitude else magnitude)
      else none
  | _ => none

/-- The number has no fractional part; infinities and the undefined number do not count. -/
def isWhole (number : Double) : Bool :=
  number.toInt?.isSome

end Double

end SchemaSignature
