import ForwardedClient.Console.Lines
import ForwardedClient.Console.Markup

/-!
Contract: text in a frame with round corners and a title.

Owns: the width of a frame, which is that of its text as far as the console allows, and its
drawing.

Does not own: the text. It is marked text.
-/

namespace ForwardedClient.Console

open ForwardedClient.Text

structure Panel where
  title : String
  text : String

namespace Panel

def titleLine (width : Nat) (title : List Char) : List Char :=
  let shown := cut .fold (width - 2) (' ' :: title ++ [' '])
  let spare := (width - 2) - textWidth shown
  let line (count : Nat) := List.replicate count '─'
  '╭' :: line (spare / 2 + 1) ++ shown ++ line (spare - spare / 2 + 1) ++ ['╮']

def drawText (consoleWidth : Nat) (title text : List Char) : List (List Char) :=
  let limit := consoleWidth - 2
  let width := min limit (max (min limit (naturalWidth text + 2)) (textWidth title + 4))
  let body := (layOut .fold (width - 2) text).map fun line =>
    '│' :: ' ' :: padded (width - 2) line ++ [' ', '│']
  titleLine width title :: body ++ ['╰' :: List.replicate width '─' ++ ['╯']]

def draw (consoleWidth : Nat) (panel : Panel) : Except MarkupFault (List String) := do
  let title ← plainText panel.title
  let text ← plainText panel.text
  return (drawText consoleWidth title text).map String.ofList

end Panel

end ForwardedClient.Console
