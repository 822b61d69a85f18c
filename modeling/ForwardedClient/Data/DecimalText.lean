import ForwardedClient.Data.Binary64
import ForwardedClient.Text.Blank
import ForwardedClient.Text.Digit

/-!
Contract: decimal spellings of binary numbers.

Owns: the plain spelling with the fewest digits, spellings with a fixed number of places or
of significant digits, and the reader of decimal text.

Does not own: widths and signs around a spelling.
-/

namespace ForwardedClient.Data

open ForwardedClient.Text

def decimalDigits (value : Nat) : List Char := Nat.toDigits 10 value

def exponentText (exponent : Int) : List Char :=
  let digits := decimalDigits exponent.natAbs
  (if exponent < 0 then '-' else '+') ::
    (List.replicate (2 - digits.length) '0' ++ digits)

def dropTrailingZeros (digits : List Char) : List Char :=
  (digits.reverse.dropWhile (· == '0')).reverse

/-- Digits with a point after some of them; zeros fill up on either side. -/
def placePoint (digits : List Char) (point : Int) : List Char × List Char :=
  if point ≤ 0 then (['0'], List.replicate (-point).toNat '0' ++ digits)
  else
    let whole := point.toNat
    (digits.take whole ++ List.replicate (whole - digits.length) '0', digits.drop whole)

/-- The plain spelling of a magnitude: positional from 0.0001 up to below ten to the
sixteenth, always with a digit after the point, else with an exponent. -/
def plainMagnitude (mantissa : Nat) (exponent : Int) : List Char :=
  if mantissa == 0 then "0.0".toList
  else
    let (value, power) := Binary64.shortest mantissa exponent
    let all := decimalDigits value
    let point := power + all.length
    let digits := dropTrailingZeros all
    if -4 < point && point ≤ 16 then
      let (whole, fraction) := placePoint digits point
      whole ++ '.' :: (if fraction.isEmpty then ['0'] else fraction)
    else
      let tail := if digits.length ≤ 1 then [] else '.' :: digits.tail
      digits.take 1 ++ tail ++ 'e' :: exponentText (point - 1)

namespace Binary64

/-- The plain spelling of a number; `special` spells what is not a number and infinity. -/
def spell (nanText infinityText : String) : Binary64 → String
  | .notANumber => nanText
  | .infinite negative => if negative then "-" ++ infinityText else infinityText
  | .finite negative mantissa exponent =>
    let body := String.ofList (plainMagnitude mantissa exponent)
    if negative then "-" ++ body else body

def text (value : Binary64) : String := value.spell "nan" "inf"

end Binary64

/-- A magnitude with a fixed number of digits after the point. -/
def fixedMagnitude (places : Nat) (mantissa : Nat) (exponent : Int) : List Char :=
  let (numerator, denominator) := scaleRatio 2 mantissa 1 exponent
  let scaled := decimalDigits (roundRatio (numerator * Nat.pow 10 places) denominator)
  let padded := List.replicate (places + 1 - scaled.length) '0' ++ scaled
  let whole := padded.length - places
  padded.take whole ++ (if places == 0 then [] else '.' :: padded.drop whole)

/-- The first digits of a magnitude, rounded, and the power of ten of the first one. -/
def leadingDigits (count : Nat) (mantissa : Nat) (exponent : Int) : List Char × Int :=
  if mantissa == 0 then (List.replicate count '0', 0)
  else
    let (numerator, denominator) := scaleRatio 2 mantissa 1 exponent
    let point := Binary64.decimalPoint numerator denominator
    let (scaled, unit) := scaleRatio 10 numerator denominator (count - point)
    let digits := decimalDigits (roundRatio scaled unit)
    if count < digits.length then (digits.take count, point) else (digits, point - 1)

/-- A magnitude with one digit before the point, some after it and an exponent. -/
def scientificMagnitude (places : Nat) (mantissa : Nat) (exponent : Int) : List Char :=
  let (digits, power) := leadingDigits (places + 1) mantissa exponent
  digits.take 1 ++ (if places == 0 then [] else '.' :: digits.drop 1) ++
    'e' :: exponentText power

/-- A magnitude with a number of significant digits, positional unless the exponent is below
minus four or reaches that number; zeros at the end are dropped unless they are kept. -/
def generalMagnitude (keepZeros : Bool) (precision : Nat) (mantissa : Nat) (exponent : Int) :
    List Char :=
  let count := max precision 1
  let (digits, power) := leadingDigits count mantissa exponent
  let kept := if keepZeros then digits else dropTrailingZeros digits
  if -4 ≤ power && power < count then
    let (whole, fraction) := placePoint kept (power + 1)
    whole ++ (if fraction.isEmpty then [] else '.' :: fraction)
  else
    let kept := if kept.isEmpty then ['0'] else kept
    kept.take 1 ++ (if kept.length ≤ 1 then [] else '.' :: kept.drop 1) ++
      'e' :: exponentText power

/-- Digits with single low lines between them; `none` for any other text. -/
def plainDigits : List Char → Option (List Char)
  | [] => some []
  | text =>
    let groups := pieces (· == '_') text
    if groups.all fun group => !group.isEmpty && group.all isAsciiDigit then
      some groups.flatten
    else none

/-- Reads an unsigned decimal with optional point and exponent. -/
def readMagnitude (negative : Bool) (text : List Char) : Option Binary64 := do
  let (significand, exponent) := partitionAt (fun char => char == 'e' || char == 'E') text
  let (whole, fraction) := partitionAt (· == '.') significand
  let whole ← plainDigits whole
  let fraction ← plainDigits (fraction.getD [])
  if whole.isEmpty && fraction.isEmpty then
    none
  let power ←
    match exponent with
    | none => some (0 : Int)
    | some ('-' :: digits) => do
      let digits ← plainDigits digits
      if digits.isEmpty then none else some (-(decimalValue digits : Int))
    | some text => do
      let digits ← plainDigits (if text.head? == some '+' then text.tail else text)
      if digits.isEmpty then none else some (decimalValue digits : Int)
  return .ofDecimal negative (decimalValue (whole ++ fraction)) (power - fraction.length)

/-- Reads a decimal, an infinity or what is not a number, between blanks. -/
def readDecimal (text : String) : Option Binary64 :=
  let (negative, body) :=
    match strip text.toList with
    | '-' :: rest => (true, rest)
    | '+' :: rest => (false, rest)
    | rest => (false, rest)
  let word := String.ofList (body.map Char.toLower)
  if word == "inf" || word == "infinity" then some (.infinite negative)
  else if word == "nan" then some .notANumber
  else readMagnitude negative body

end ForwardedClient.Data
