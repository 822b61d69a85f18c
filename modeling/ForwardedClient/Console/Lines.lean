import ForwardedClient.Text.Blank
import ForwardedClient.Text.CellWidth
import ForwardedClient.Text.Pieces

/-!
Contract: text in lines of a given width.

Owns: the words of a text, the breaking of a text between words, what happens to a word that
fits on no line, tabs, filling up and centring, and the width that a text asks for.

Does not own: borders. All widths are counted in terminal cells.
-/

namespace ForwardedClient.Console

open ForwardedClient.Text

/-- What happens to a word that is wider than the line: it goes on in the next line, or it is
cut and ends in an ellipsis. -/
inductive Overflow where
  | fold
  | ellipsis
deriving DecidableEq

def blanks (count : Nat) : List Char := List.replicate count ' '

/-- The start of a text that fits into a width; of a character that does not fit entirely a
blank is shown. -/
def fitting (width : Nat) : List Char → List Char
  | [] => []
  | char :: rest =>
    if charWidth char ≤ width then char :: fitting (width - charWidth char) rest
    else blanks width

def padded (width : Nat) (line : List Char) : List Char := line ++ blanks (width - textWidth line)

def centred (width : Nat) (line : List Char) : List Char :=
  padded width (blanks ((width - textWidth line) / 2) ++ line)

def cut (overflow : Overflow) (width : Nat) (line : List Char) : List Char :=
  if textWidth line ≤ width then line
  else
    match overflow with
    | .fold => fitting width line
    | .ellipsis => padded (width - 1) (fitting (width - 1) line) ++ ['…']

/-! ### Words -/

/-- Reads on in a word, which is given backwards; `closed` tells that blanks followed its
letters, `lettered` that it has any. -/
def wordsFrom (word : List Char) (lettered closed : Bool) : List Char → List (List Char)
  | [] => if lettered then [word.reverse] else []
  | char :: rest =>
    if isBlank char then wordsFrom (char :: word) lettered lettered rest
    else if closed then word.reverse :: wordsFrom [char] true false rest
    else wordsFrom (char :: word) true false rest

/-- The words of a text, each with the blanks after it, the first also with those before. -/
def words (text : List Char) : List (List Char) := wordsFrom [] false false text

/-- The parts of a word that go on separate lines; the first part is given backwards. -/
def chopFrom (width used : Nat) (part : List Char) : List Char → List (List Char)
  | [] => [part.reverse]
  | char :: rest =>
    if used + charWidth char ≤ width then
      chopFrom width (used + charWidth char) (char :: part) rest
    else part.reverse :: chopFrom width (charWidth char) [char] rest

def chop (width : Nat) (word : List Char) : List (List Char) := chopFrom width 0 [] word

/-! ### Lines -/

/-- The lines that are full, the last one first, the current line, and the cells counted on
it. -/
structure Filling where
  full : List (List Char) := []
  current : List Char := []
  used : Nat := 0

namespace Filling

def append (filling : Filling) (word : List Char) : Filling :=
  { filling with
    current := filling.current ++ word
    used := filling.used + textWidth word }

def startWith (filling : Filling) (word : List Char) : Filling :=
  let full := if filling.current.isEmpty then filling.full else filling.current :: filling.full
  ⟨full, word, textWidth word⟩

def put (overflow : Overflow) (width : Nat) (filling : Filling) (word : List Char) : Filling :=
  let needed := textWidth (word.reverse.dropWhile isBlank).reverse
  if filling.used + needed ≤ width then filling.append word
  else if needed ≤ width then filling.startWith word
  else
    match overflow with
    | .fold => (chop width word).foldl startWith filling
    | .ellipsis => filling.startWith word

def lines (filling : Filling) : List (List Char) := (filling.current :: filling.full).reverse

end Filling

/-- Removes blanks at the end of a line that make it longer than the width. -/
def trimExcess (width : Nat) (line : List Char) : List Char :=
  let trailing := (line.reverse.takeWhile isBlank).length
  line.take (line.length - min trailing (line.length - width))

def tabStop : Nat := 8

def expandTabs (column : Nat) : List Char → List Char
  | [] => []
  | char :: rest =>
    if char == '\t' then
      let next := (column / tabStop + 1) * tabStop
      blanks (next - column) ++ expandTabs next rest
    else char :: expandTabs (column + charWidth char) rest

def breakLine (overflow : Overflow) (width : Nat) (text : List Char) : List (List Char) :=
  match words text with
  | [] => [text]
  | found => (found.foldl (Filling.put overflow width) {}).lines

/-- Lays a text out in lines that are no wider than a width. -/
def layOut (overflow : Overflow) (width : Nat) (text : List Char) : List (List Char) :=
  (pieces (· == '\n') text).flatMap fun paragraph =>
    (breakLine overflow width (expandTabs 0 paragraph)).map fun line =>
      cut overflow width (trimExcess width line)

/-- Characters that end a line when the width of a text is taken. -/
def isLineEnd (char : Char) : Bool :=
  let code := char.toNat
  (0x0A ≤ code && code ≤ 0x0D) || (0x1C ≤ code && code ≤ 0x1E) || code == 0x85 ||
    code == 0x2028 || code == 0x2029

def naturalWidth (text : List Char) : Nat :=
  ((pieces isLineEnd text).map textWidth).foldl max 0

end ForwardedClient.Console
