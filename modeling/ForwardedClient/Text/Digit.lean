import ForwardedClient.Text.CodeRanges

/-!
Contract: characters that stand for digits.

Owns: ASCII digits, decimal digits of all scripts with their values, and digits in the wider
sense that also admits superscripts and circled digits.

Does not own: letters and numerals that are not single digits.
-/

namespace ForwardedClient.Text

def isAsciiDigit (char : Char) : Bool := '0' ≤ char && char ≤ '9'

/-- Decimal digits of every script; each range is made of runs that start at zero. -/
def decimalDigitRanges : CodeRanges :=
  .ofLines
   ["30-39 660-669 6F0-6F9 7C0-7C9 966-96F 9E6-9EF A66-A6F AE6-AEF B66-B6F BE6-BEF C66-C6F",
    "CE6-CEF D66-D6F DE6-DEF E50-E59 ED0-ED9 F20-F29 1040-1049 1090-1099 17E0-17E9 1810-1819",
    "1946-194F 19D0-19D9 1A80-1A89 1A90-1A99 1B50-1B59 1BB0-1BB9 1C40-1C49 1C50-1C59",
    "A620-A629 A8D0-A8D9 A900-A909 A9D0-A9D9 A9F0-A9F9 AA50-AA59 ABF0-ABF9 FF10-FF19",
    "104A0-104A9 10D30-10D39 11066-1106F 110F0-110F9 11136-1113F 111D0-111D9 112F0-112F9",
    "11450-11459 114D0-114D9 11650-11659 116C0-116C9 11730-11739 118E0-118E9 11950-11959",
    "11C50-11C59 11D50-11D59 11DA0-11DA9 16A60-16A69 16AC0-16AC9 16B50-16B59 1D7CE-1D7FF",
    "1E140-1E149 1E2F0-1E2F9 1E950-1E959 1FBF0-1FBF9"]

/-- Characters with the value of a single digit, superscripts and circled digits included. -/
def digitRanges : CodeRanges :=
  .ofLines
   ["30-39 B2-B3 B9 660-669 6F0-6F9 7C0-7C9 966-96F 9E6-9EF A66-A6F AE6-AEF B66-B6F BE6-BEF",
    "C66-C6F CE6-CEF D66-D6F DE6-DEF E50-E59 ED0-ED9 F20-F29 1040-1049 1090-1099 1369-1371",
    "17E0-17E9 1810-1819 1946-194F 19D0-19DA 1A80-1A89 1A90-1A99 1B50-1B59 1BB0-1BB9",
    "1C40-1C49 1C50-1C59 2070 2074-2079 2080-2089 2460-2468 2474-247C 2488-2490 24EA",
    "24F5-24FD 24FF 2776-277E 2780-2788 278A-2792 A620-A629 A8D0-A8D9 A900-A909 A9D0-A9D9",
    "A9F0-A9F9 AA50-AA59 ABF0-ABF9 FF10-FF19 104A0-104A9 10A40-10A43 10D30-10D39 10E60-10E68",
    "11052-1105A 11066-1106F 110F0-110F9 11136-1113F 111D0-111D9 112F0-112F9 11450-11459",
    "114D0-114D9 11650-11659 116C0-116C9 11730-11739 118E0-118E9 11950-11959 11C50-11C59",
    "11D50-11D59 11DA0-11DA9 16A60-16A69 16AC0-16AC9 16B50-16B59 1D7CE-1D7FF 1E140-1E149",
    "1E2F0-1E2F9 1E950-1E959 1F100-1F10A 1FBF0-1FBF9"]

def isDecimalDigit (char : Char) : Bool :=
  if char.toNat < 0x80 then isAsciiDigit char else decimalDigitRanges.contains char.toNat

/-- The value of a decimal digit: its place in its run of ten. -/
def decimalDigitValue? (char : Char) : Option Nat :=
  (decimalDigitRanges.ranges.find? fun range =>
      range.1 ≤ char.toNat && char.toNat ≤ range.2).map
    fun range => (char.toNat - range.1) % 10

/-- Whether a character has the value of a single digit. -/
def isDigitLike (char : Char) : Bool :=
  if char.toNat < 0x80 then isAsciiDigit char else digitRanges.contains char.toNat

def decimalValue (digits : List Char) : Nat :=
  digits.foldl (fun value digit => 10 * value + (digit.toNat - '0'.toNat)) 0

theorem isDecimalDigit_of_isAsciiDigit (char : Char) (digit : isAsciiDigit char = true) :
    isDecimalDigit char = true := by
  have bounds : char ≤ '9' := by
    simp only [isAsciiDigit, Bool.and_eq_true, decide_eq_true_eq] at digit
    exact digit.2
  have small : char.toNat < 0x80 := Nat.lt_of_le_of_lt bounds (by decide)
  simp [isDecimalDigit, small, digit]

end ForwardedClient.Text
