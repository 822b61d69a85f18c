import ForwardedClient.Text.Blank
import ForwardedClient.Text.Case
import ForwardedClient.Text.Letter

/-!
Contract: which single characters a part of a pattern accepts.

Owns: `CharClass`, a possibly negated union of code points, ranges and named kinds, under
the modes that ignore case and that restrict the named kinds to ASCII.

Does not own: how a class is written in a pattern.
-/

namespace ForwardedClient.Pattern

open ForwardedClient.Text

inductive CharKind where
  | digit
  | blank
  | word
deriving DecidableEq

/-- Whether a character is of a kind; `ascii` restricts the kinds to ASCII. -/
def CharKind.holds (ascii : Bool) : CharKind → Char → Bool
  | .digit, char => if ascii then isAsciiDigit char else isDecimalDigit char
  | .blank, char =>
    if ascii then char == ' ' || (0x09 ≤ char.toNat && char.toNat ≤ 0x0D) else isBlank char
  | .word, char => if ascii then isAsciiWordChar char else isWordChar char

inductive ClassItem where
  | code (value : Nat)
  | range (first last : Nat)
  | ofKind (kind : CharKind) (negated : Bool)
deriving DecidableEq

structure CharMode where
  ignoreCase : Bool := false
  ascii : Bool := false
deriving DecidableEq

/-- The code points that count as equal to a given one. -/
def CharMode.variants (mode : CharMode) (code : Nat) : List Nat :=
  if !mode.ignoreCase then [code]
  else if mode.ascii then
    let small := asciiLowerCode code
    if 0x61 ≤ small && small ≤ 0x7A then [small, small - 0x20] else [code]
  else caseVariants code

/-- A union of members, or all characters outside of it. -/
structure CharClass where
  items : List ClassItem
  negated : Bool := false
  mode : CharMode := {}
deriving DecidableEq

namespace ClassItem

def holds (mode : CharMode) (char : Char) : ClassItem → Bool
  | .code value => (mode.variants char.toNat).contains value
  | .range first last =>
    (mode.variants char.toNat).any fun code => first ≤ code && code ≤ last
  | .ofKind kind negated => kind.holds mode.ascii char != negated

end ClassItem

namespace CharClass

def contains (charClass : CharClass) (char : Char) : Bool :=
  charClass.items.any (·.holds charClass.mode char) != charClass.negated

def single (mode : CharMode) (code : Nat) : CharClass := { items := [.code code], mode }

/-- All characters, or all but the line feed. -/
def anyChar (lineFeedToo : Bool) : CharClass :=
  { items := if lineFeedToo then [] else [.code 0x0A], negated := true }

theorem contains_single (code : Nat) (char : Char) :
    (single {} code).contains char = decide (code = char.toNat) := by
  simp [single, contains, ClassItem.holds, CharMode.variants]

end CharClass

end ForwardedClient.Pattern
