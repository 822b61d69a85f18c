/-!
Contract: binary floating-point numbers of 64 bits, as exact numbers.

Owns: `Binary64`, rounding a ratio to the nearest one, the shortest decimal digits that
round back to it, and rounding of exact ratios.

Does not own: where the point and the exponent are written.
-/

namespace ForwardedClient.Data

/-- A number of the format: not a number, an infinity, or `mantissa * 2 ^ exponent` with a
mantissa below `2 ^ 53`. -/
inductive Binary64 where
  | notANumber
  | infinite (negative : Bool)
  | finite (negative : Bool) (mantissa : Nat) (exponent : Int)
deriving DecidableEq

/-- The nearest whole number to a ratio; a half goes to the even neighbour. -/
def roundRatio (numerator denominator : Nat) : Nat :=
  let quotient := numerator / denominator
  let remainder := numerator % denominator
  if 2 * remainder < denominator then quotient
  else if denominator < 2 * remainder then quotient + 1
  else if quotient % 2 == 0 then quotient
  else quotient + 1

/-- A ratio times a power of a base, as a ratio. -/
def scaleRatio (base numerator denominator : Nat) (power : Int) : Nat × Nat :=
  if 0 ≤ power then (numerator * base.pow power.toNat, denominator)
  else (numerator, denominator * base.pow (-power).toNat)

namespace Binary64

def mantissaBound : Nat := Nat.pow 2 53
def leastExponent : Int := -1074
def greatestExponent : Int := 971

def zero : Binary64 := .finite false 0 0

/-- The least exponent from a start at which the whole part of a ratio is below the bound. -/
def fitExponent (numerator denominator : Nat) : Nat → Int → Int
  | 0, exponent => exponent
  | fuel + 1, exponent =>
    let (scaled, unit) := scaleRatio 2 numerator denominator (-exponent)
    if scaled / unit < mantissaBound then exponent
    else fitExponent numerator denominator fuel (exponent + 1)

def ofRatio (negative : Bool) (numerator denominator : Nat) : Binary64 :=
  if numerator == 0 then .finite negative 0 0
  else
    let guess : Int := (Nat.log2 numerator : Int) - Nat.log2 denominator - 54
    let exponent := fitExponent numerator denominator 8 (max guess leastExponent)
    let (scaled, unit) := scaleRatio 2 numerator denominator (-exponent)
    let rounded := roundRatio scaled unit
    let (mantissa, exponent) :=
      if rounded == mantissaBound then (rounded / 2, exponent + 1) else (rounded, exponent)
    if greatestExponent < exponent then .infinite negative
    else .finite negative mantissa exponent

def ofInt (value : Int) : Binary64 := ofRatio (value < 0) value.natAbs 1

def ofDecimal (negative : Bool) (digits : Nat) (power : Int) : Binary64 :=
  let (numerator, denominator) := scaleRatio 10 digits 1 power
  ofRatio negative numerator denominator

/-- Whether the number has no fractional part, and its value if so. -/
def toInt? : Binary64 → Option Int
  | .finite negative mantissa exponent =>
    let (numerator, denominator) := scaleRatio 2 mantissa 1 exponent
    if numerator % denominator == 0 then
      let value : Int := (numerator / denominator : Nat)
      some (if negative then -value else value)
    else none
  | _ => none

def wholePart (mantissa : Nat) (exponent : Int) : Nat :=
  let (numerator, denominator) := scaleRatio 2 mantissa 1 exponent
  numerator / denominator

/-- How many digits the whole part of a positive ratio has; for a ratio below one, minus the
number of zeros after the point. -/
def decimalPoint (numerator denominator : Nat) : Int :=
  if denominator ≤ numerator then (Nat.toDigits 10 (numerator / denominator)).length
  else 1 - (Nat.toDigits 10 ((denominator - 1) / numerator)).length

/-- Whether `digits * 10 ^ power` rounds to `mantissa * 2 ^ exponent`: it lies between the
midpoints to both neighbours, which count only for an even mantissa. -/
def roundsBack (mantissa : Nat) (exponent : Int) (digits : Nat) (power : Int) : Bool :=
  let lowerGap := if mantissa == mantissaBound / 2 && leastExponent < exponent then 1 else 2
  let unit := exponent - 2
  let (candidate, scale) := scaleRatio 10 digits 1 power
  let (candidate, scale) := scaleRatio 2 candidate scale (-unit)
  let lower := (4 * mantissa - lowerGap) * scale
  let upper := (4 * mantissa + 2) * scale
  if mantissa % 2 == 0 then lower ≤ candidate && candidate ≤ upper
  else lower < candidate && candidate < upper

/-- Tries decimals with a growing number of digits; of the two neighbours of the number on a
grid the nearer one that rounds back counts. The result is the digits and their power. -/
def shortestFrom (mantissa : Nat) (exponent : Int) (numerator denominator : Nat)
    (point : Int) : Nat → Nat → Nat × Int
  | 0, _ => (numerator / denominator, 0)
  | fuel + 1, count =>
    let power := point - count
    let (scaled, unit) := scaleRatio 10 numerator denominator (-power)
    let nearest := roundRatio scaled unit
    let floor := scaled / unit
    let other := if nearest == floor then floor + 1 else floor
    if roundsBack mantissa exponent nearest power then (nearest, power)
    else if roundsBack mantissa exponent other power then (other, power)
    else shortestFrom mantissa exponent numerator denominator point fuel (count + 1)

/-- The fewest decimal digits that round back to a positive number, and the power of ten
they are multiplied by. -/
def shortest (mantissa : Nat) (exponent : Int) : Nat × Int :=
  let (numerator, denominator) := scaleRatio 2 mantissa 1 exponent
  shortestFrom mantissa exponent numerator denominator (decimalPoint numerator denominator) 17 1

end Binary64

end ForwardedClient.Data
