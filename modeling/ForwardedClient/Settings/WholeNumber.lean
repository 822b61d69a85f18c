import ForwardedClient.Data.Basic
import ForwardedClient.Settings.Fault
import ForwardedClient.Text.Blank
import ForwardedClient.Text.Digit
import ForwardedClient.Text.Pieces

/-!
Contract: whole numbers in settings.

Owns: `readWhole`, which takes decimal text with blanks around it, a plus sign, leading zeros,
single low lines between digits or a point followed by zeros only, and `wholeOfBinary`, which
takes numbers without a fractional part.

Does not own: values of other types, and the range of a port.
-/

namespace ForwardedClient.Settings

open ForwardedClient.Data
open ForwardedClient.Text

def maxWholeDigits : Nat := 4300

/-- Reads digits without leading zeros, after an optional minus sign. -/
def readPlainWhole (text : List Char) : Except Complaint Int :=
  let negative := text.head? == some '-'
  let digits := if negative then text.tail else text
  let canonical := !digits.isEmpty && digits.all isAsciiDigit &&
    (digits.head? != some '0' || digits.length == 1)
  if !canonical then .error .unreadableWhole
  else if maxWholeDigits < digits.length then .error .tooLong
  else
    let value : Int := decimalValue digits
    .ok (if negative then -value else value)

/-- Drops zeros and low lines from the left until another digit or the point; the last zero
stays if nothing else does. Only a digit or a minus sign may come first. -/
def dropLeadingZeros (text : List Char) : Option (List Char) :=
  match text with
  | '0' :: rest =>
    let filler := rest.takeWhile fun char => char == '0' || char == '_'
    let last := ('0' :: filler).getLast?.toList
    match rest.dropWhile fun char => char == '0' || char == '_' with
    | [] => some last
    | '.' :: after => some (last ++ '.' :: after)
    | char :: after => if isAsciiDigit char then some (char :: after) else none
  | char :: rest => if isAsciiDigit char || char == '-' then some (char :: rest) else none
  | [] => none

/-- Drops the first point if only zeros follow it. -/
def dropZeroFraction (text : List Char) : List Char :=
  match partitionAt (· == '.') text with
  | (whole, some fraction) => if fraction.all (· == '0') then whole else text
  | (_, none) => text

/-- Whether low lines stand alone and not at the ends. -/
def hasSingleLowLines (text : List Char) : Bool :=
  (pieces (· == '_') text).all fun piece => !piece.isEmpty

/-- Brings a text into the plain form, if it can be. -/
def plainWhole (text : List Char) : Option (List Char) := do
  let text := stripWhile isWhiteSpace text
  let text ←
    match text with
    | '+' :: '-' :: _ => none
    | '+' :: rest => some rest
    | text => some text
  let text := dropZeroFraction (← dropLeadingZeros text)
  return if hasSingleLowLines text then text.filter (· != '_') else text

def readWhole (text : String) : Except Complaint Int :=
  match readPlainWhole text.toList with
  | .error .unreadableWhole =>
    match plainWhole text.toList with
    | none => .error .unreadableWhole
    | some plain => readPlainWhole plain
  | outcome => outcome

def leastWord : Int := -9223372036854775808

def isWord (value : Int) : Bool := leastWord ≤ value && value < -leastWord

/-- The whole number that a binary number is. -/
def wholeOfBinary (value : Binary64) : Except Complaint Int :=
  match value with
  | .notANumber | .infinite _ => .error .notFinite
  | .finite .. =>
    match value.toInt? with
    | none => .error .fractional
    | some whole => if isWord whole && whole != leastWord then .ok whole else .error .tooLong

end ForwardedClient.Settings
