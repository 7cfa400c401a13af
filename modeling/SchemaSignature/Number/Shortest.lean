import SchemaSignature.Number.Double

/-!
The decimal text of a double: the fewest significant digits that read back to the same number,
and of those the nearest to it. Digits are selected by exact integer arithmetic; how they are laid
out is decided separately.
-/

namespace SchemaSignature.Double

/-- Compares `left · 10 ^ ten` with `right · 2 ^ two` without leaving the natural numbers. -/
def compareScaled (left : Nat) (ten : Int) (right : Nat) (two : Int) : Ordering :=
  compare (left * Nat.pow 10 ten.toNat * Nat.pow 2 (-two).toNat)
    (right * Nat.pow 2 two.toNat * Nat.pow 10 (-ten).toNat)

/-- The exponent of the highest power of ten that a positive `significand · 2 ^ exponent`
reaches. -/
def decimalMagnitude (significand : Nat) (exponent : Int) : Int :=
  let guess := ((significand.log2 : Int) + exponent) * 30103 / 100000
  let reached (ten : Int) : Bool := compareScaled 1 ten significand exponent != .gt
  if reached (guess + 1) then guess + 1 else if reached guess then guess else guess - 1

/-- The decimal `digits · 10 ^ ten` reads back as `significand · 2 ^ exponent`: it lies between the
midpoints to the neighbouring doubles, the midpoints included if the significand is even. -/
def readsBack (significand : Nat) (exponent : Int) (digits : Nat) (ten : Int) : Bool :=
  let below := if significand = Nat.pow 2 52 ∧ -1074 < exponent then 1 else 2
  let lower := compareScaled digits ten (4 * significand - below) (exponent - 2)
  let upper := compareScaled digits ten (4 * significand + 2) (exponent - 2)
  if significand % 2 = 0 then lower != .lt && upper != .gt else lower == .gt && upper == .lt

/-- The two neighbours of `significand · 2 ^ exponent` among the multiples of `10 ^ ten`, and
whether the upper one is nearer, equally near neighbours being decided for the even one. -/
def gridNeighbours (significand : Nat) (exponent ten : Int) : Nat × Nat × Bool :=
  let numerator := significand * Nat.pow 2 exponent.toNat * Nat.pow 10 (-ten).toNat
  let denominator := Nat.pow 2 (-exponent).toNat * Nat.pow 10 ten.toNat
  let lower := numerator / denominator
  (lower, lower + 1, roundQuotient numerator denominator == lower + 1)

/-- The value on the grid of `10 ^ ten` that reads back, the nearer one if both neighbours do. -/
def gridHit? (significand : Nat) (exponent ten : Int) : Option Nat :=
  let (lower, upper, upperNearer) := gridNeighbours significand exponent ten
  match readsBack significand exponent lower ten, readsBack significand exponent upper ten with
  | true, true => some (if upperNearer then upper else lower)
  | true, false => some lower
  | false, true => some upper
  | false, false => none

/-- Tries one grid after the other, from `count` digits fewer than seventeen on. -/
def firstHit (significand : Nat) (exponent magnitude : Int) : Nat → Nat × Int
  | 0 => ((gridNeighbours significand exponent (magnitude - 16)).1, magnitude - 16)
  | count + 1 =>
      let ten := magnitude - 16 + count
      match gridHit? significand exponent ten with
      | some digits => (digits, ten)
      | none => firstHit significand exponent magnitude count

/-- The digits of a positive finite double and the power of ten of the last one. -/
def shortestDecimal (significand : Nat) (exponent : Int) : Nat × Int :=
  firstHit significand exponent (decimalMagnitude significand exponent) 17

def trimZeros (digits : List Char) : List Char :=
  (digits.reverse.dropWhile (· == '0')).reverse

/-- Lays out significant digits whose decimal point stands after the first `point` of them:
positional from `0.0001` up to sixteen digits before the point, with at least one digit after
it; otherwise with an exponent of at least two digits. -/
def layOut (digits : List Char) (point : Int) : String :=
  if -4 < point ∧ point ≤ 16 then
    if point ≤ 0 then
      "0." ++ String.ofList (List.replicate (-point).toNat '0' ++ digits)
    else
      let whole := digits.take point.toNat
      let fraction := digits.drop point.toNat
      String.ofList (whole ++ List.replicate (point.toNat - whole.length) '0') ++ "." ++
        (if fraction.isEmpty then "0" else String.ofList fraction)
  else
    let power := point - 1
    let exponentDigits := toString power.natAbs
    String.ofList (digits.take 1) ++
      (if digits.length ≤ 1 then "" else "." ++ String.ofList (digits.drop 1)) ++
      (if power < 0 then "e-" else "e+") ++
      (if exponentDigits.length < 2 then "0" else "") ++ exponentDigits

def finiteText (negative : Bool) (significand : Nat) (exponent : Int) : String :=
  (if negative then "-" else "") ++
    if significand = 0 then "0.0"
    else
      let (digits, ten) := shortestDecimal significand exponent
      let written := (toString digits).toList
      layOut (trimZeros written) (ten + written.length)

end SchemaSignature.Double
