import ForwardedClient.Console.Lines
import ForwardedClient.Console.Markup

/-!
Contract: tables with a title, a heavy heading and a line between any two rows.

Owns: `Table`, the widths of its columns on a console of limited width, and its drawing.

Does not own: what stands in the cells. Every cell is marked text.
-/

namespace ForwardedClient.Console

open ForwardedClient.Text

/-- A column: its heading and the cells below it. -/
structure Column where
  heading : String
  cells : List String

structure Table where
  title : String
  columns : List Column

/-! ### Widths -/

/-- The quotient rounded to the nearest whole number, a half to the even one. -/
def roundedQuotient (dividend divisor : Nat) : Nat :=
  let quotient := dividend / divisor
  let doubled := 2 * (dividend % divisor)
  if divisor < doubled || (divisor == doubled && quotient % 2 == 1) then quotient + 1
  else quotient

/-- Takes an excess evenly off the widths that equal the widest; `sharers` is how many of
them are left, and none loses more than `most`. -/
def takeOff (widest most : Nat) (excess sharers : Nat) : List Nat → List Nat
  | [] => []
  | width :: rest =>
    if width == widest then
      let share := min most (roundedQuotient excess sharers)
      (width - share) :: takeOff widest most (excess - share) (sharers - 1) rest
    else width :: takeOff widest most excess sharers rest

/-- Lowers the widest columns to the next width below them, as far as there is an excess. -/
def shrinkWidest (excess : Nat) (widths : List Nat) : List Nat :=
  let widest := widths.foldl max 0
  let second := (widths.filter (· != widest)).foldl max 0
  takeOff widest (min excess (widest - second)) excess (widths.count widest) widths

def totalWidth (widths : List Nat) : Nat := widths.foldl (· + ·) 0

/-- Shrinks the widest columns until the sum is within the limit; every round takes off at
least one cell, so as many rounds as there is excess are enough. -/
def shrink (limit : Nat) : Nat → List Nat → List Nat
  | 0, widths => widths
  | rounds + 1, widths =>
    if totalWidth widths ≤ limit then widths
    else shrink limit rounds (shrinkWidest (totalWidth widths - limit) widths)

def askedWidth (limit : Nat) (cells : List (List Char)) : Nat :=
  min limit ((cells.map fun cell => naturalWidth cell + 2).foldl max 0)

/-- The widths of the columns; between and around them there are borders of one cell. -/
def columnWidths (consoleWidth : Nat) (columns : List (List (List Char))) : List Nat :=
  let limit := consoleWidth - (columns.length + 1)
  let asked := columns.map (askedWidth limit)
  shrink limit (totalWidth asked) asked

/-! ### Drawing -/

/-- The characters of a horizontal line: its ends, its body and its crossings. -/
structure Rule where
  left : Char
  body : Char
  crossing : Char
  right : Char

namespace Rule

def top : Rule := ⟨'┏', '━', '┳', '┓'⟩
def underHeading : Rule := ⟨'┡', '━', '╇', '┩'⟩
def betweenRows : Rule := ⟨'├', '─', '┼', '┤'⟩
def bottom : Rule := ⟨'└', '─', '┴', '┘'⟩

def draw (rule : Rule) (widths : List Nat) : List Char :=
  let parts := widths.map fun width => List.replicate width rule.body
  rule.left :: List.intercalate [rule.crossing] parts ++ [rule.right]

end Rule

def cellLines (width : Nat) (cell : List Char) : List (List Char) :=
  (layOut .ellipsis (width - 2) cell).map fun line => ' ' :: padded (width - 2) line ++ [' ']

def rowLines (bar : Char) (widths : List Nat) (cells : List (List Char)) : List (List Char) :=
  let drawn := List.zipWith cellLines widths cells
  let height := (drawn.map List.length).foldl max 1
  (List.range height).map fun index =>
    let parts := List.zipWith (fun width lines => lines.getD index (blanks width)) widths drawn
    bar :: List.intercalate [bar] parts ++ [bar]

def rowsOf (columns : List (List (List Char))) : List (List (List Char)) :=
  let height := (columns.map List.length).foldl max 0
  (List.range height).map fun index => columns.map fun cells => cells.getD index []

def bodyLines (widths : List Nat) (rows : List (List (List Char))) : List (List Char) :=
  List.intercalate [Rule.betweenRows.draw widths] (rows.map (rowLines '│' widths))

namespace Table

/-- The text of all cells, column by column with the headings first. -/
def texts (table : Table) : Except MarkupFault (List (List (List Char))) :=
  table.columns.mapM fun column => (column.heading :: column.cells).mapM plainText

/-- The lines of a table whose cells have been read. -/
def drawTexts (consoleWidth : Nat) (title : List Char) (columns : List (List (List Char))) :
    List (List Char) :=
  let widths := columnWidths consoleWidth columns
  let width := totalWidth widths + widths.length + 1
  let titleLines := (layOut .fold width title).map (centred width)
  match rowsOf columns with
  | [] => titleLines
  | heading :: rows =>
    titleLines ++ [Rule.top.draw widths] ++ rowLines '┃' widths heading ++
      [Rule.underHeading.draw widths] ++ bodyLines widths rows ++ [Rule.bottom.draw widths]

def draw (consoleWidth : Nat) (table : Table) : Except MarkupFault (List String) := do
  let columns ← table.texts
  let title ← plainText table.title
  return (drawTexts consoleWidth title columns).map String.ofList

end Table

end ForwardedClient.Console
