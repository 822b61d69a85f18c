/-!
Contract: hexadecimal numerals.

Owns: the value of one digit, the value of a run of digits, and the numeral of a number
with a least count of digits.

Does not own: any escape that is written with such digits.
-/

namespace ForwardedClient.Text

def hexDigitValue? (digit : Char) : Option Nat :=
  if '0' ≤ digit ∧ digit ≤ '9' then some (digit.toNat - '0'.toNat)
  else if 'a' ≤ digit ∧ digit ≤ 'f' then some (digit.toNat - 'a'.toNat + 10)
  else if 'A' ≤ digit ∧ digit ≤ 'F' then some (digit.toNat - 'A'.toNat + 10)
  else none

def isHexDigit (char : Char) : Bool := (hexDigitValue? char).isSome

/-- The number that a run of hexadecimal digits denotes; other characters count as zero. -/
def hexValue (digits : List Char) : Nat :=
  digits.foldl (fun value digit => 16 * value + (hexDigitValue? digit).getD 0) 0

/-- The lower-case numeral of a number, filled up with zeros to a least width. -/
def hexNumeral (width value : Nat) : String :=
  let digits := Nat.toDigits 16 value
  String.ofList (List.replicate (width - digits.length) '0' ++ digits)

end ForwardedClient.Text
