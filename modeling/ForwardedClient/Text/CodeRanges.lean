import ForwardedClient.Text.Hex
import ForwardedClient.Text.Pieces

/-!
Contract: sets of characters given as ranges of code points.

Owns: `CodeRanges`, the reader of its compact lines such as `30-39 B2 660-669`, and
membership.

Does not own: any particular property of characters; each of those is a table of its own.
-/

namespace ForwardedClient.Text

/-- A set of code points as a list of inclusive ranges. -/
structure CodeRanges where
  ranges : List (Nat × Nat)

/-- The entries of a table whose lines hold entries between single spaces. -/
def entriesOf (lines : List String) : List (List Char) :=
  lines.flatMap fun line => pieces (· == ' ') line.toList

namespace CodeRanges

/-- One range: `A-B` in hexadecimal, or a single code point. -/
def readRange (text : List Char) : Nat × Nat :=
  match pieces (· == '-') text with
  | [first, last] => (hexValue first, hexValue last)
  | _ => (hexValue text, hexValue text)

def ofLines (lines : List String) : CodeRanges := ⟨(entriesOf lines).map readRange⟩

def contains (set : CodeRanges) (code : Nat) : Bool :=
  set.ranges.any fun range => range.1 ≤ code && code ≤ range.2

end CodeRanges

end ForwardedClient.Text
