import ForwardedClient.Console.Pictograph

/-!
Contract: text with style tags in square brackets.

Owns: what counts as a tag, escapes by a backslash, the matching of closing tags, and
`plainText`, the text that is left to be shown.

Does not own: the styles themselves; nothing is coloured, so tags only vanish.
-/

namespace ForwardedClient.Console

open ForwardedClient.Text

/-- A closing tag without a partner, and where its bracket stands. -/
inductive MarkupFault where
  | nothingToClose (position : Nat)
  | notOpen (tag : String) (position : Nat)
deriving DecidableEq

namespace MarkupFault

def message : MarkupFault → String
  | .nothingToClose position =>
    "closing tag '[/]' at position " ++ toString position ++ " has nothing to close"
  | .notOpen tag position =>
    "closing tag '[" ++ tag ++ "]' at position " ++ toString position ++
      " doesn't match any open tag"

end MarkupFault

/-- A tag starts with a small letter, a number sign, a slash or an at sign. -/
def isTagStart (char : Char) : Bool :=
  ('a' ≤ char && char ≤ 'z') || char == '#' || char == '/' || char == '@'

/-- The tag at the start of a text after an opening bracket, and the text after the closing
bracket. The text holds no other opening bracket. -/
def tagAt? (text : List Char) : Option (List Char × List Char) :=
  match text, partitionAt (· == ']') text with
  | char :: _, (tag, some rest) => if isTagStart char then some (tag, rest) else none
  | _, _ => none

/-- Words for styles that may be shortened. -/
def styleWords : List (String × String) :=
  [("b", "bold"), ("c", "conceal"), ("d", "dim"), ("i", "italic"), ("o", "overline"),
    ("r", "reverse"), ("s", "strike"), ("u", "underline"), ("uu", "underline2")]

/-- The name under which a tag is opened and closed. -/
def tagKey (name : List Char) : String :=
  let plain := lower (stripText (String.ofList name))
  ((styleWords.find? fun entry => entry.1 == plain).map (·.2)).getD plain

def tagName (tag : List Char) : List Char := (partitionAt (· == '=') tag).1

/-- Drops the backslash before an opening bracket that starts no tag. -/
def unescapeBrackets : List Char → List Char
  | '\\' :: '[' :: rest => '[' :: unescapeBrackets rest
  | char :: rest => char :: unescapeBrackets rest
  | [] => []

/-- Where the reading of a marked text stands: what is to be shown, the text since the last
tag and where it starts, and the tags that are open, the innermost first. -/
structure MarkupReading where
  shown : List Char := []
  pending : List Char := []
  position : Nat := 0
  opened : List String := []

namespace MarkupReading

def reveal (reading : MarkupReading) (text : List Char) : MarkupReading :=
  { reading with shown := reading.shown ++ withPictographs (unescapeBrackets text) }

def apply (reading : MarkupReading) (tag : List Char) (position : Nat) :
    Except MarkupFault MarkupReading :=
  match tagName tag with
  | '/' :: name =>
    if (strip name).isEmpty then
      match reading.opened with
      | [] => .error (.nothingToClose position)
      | _ :: outer => .ok { reading with opened := outer }
    else if reading.opened.contains (tagKey name) then
      .ok { reading with opened := reading.opened.erase (tagKey name) }
    else .error (.notOpen (String.ofList tag) position)
  | name => .ok { reading with opened := tagKey name :: reading.opened }

/-- Reads the text from an opening bracket up to the next one. Of the backslashes before a
tag every two show as one; an odd one makes the tag plain text. -/
def read (reading : MarkupReading) (text : List Char) : Except MarkupFault MarkupReading :=
  match tagAt? text with
  | none => .ok { reading with pending := reading.pending ++ '[' :: text }
  | some (tag, rest) =>
    let bracket := reading.position + reading.pending.length
    let slashes := (reading.pending.reverse.takeWhile (· == '\\')).length
    let before := reading.pending.take (reading.pending.length - slashes)
    let shown := (reading.reveal before).reveal (List.replicate (slashes / 2) '\\')
    let next := { shown with pending := rest, position := bracket + tag.length + 2 }
    if slashes % 2 == 1 then .ok (next.reveal ('[' :: tag ++ [']']))
    else next.apply tag bracket

def close (reading : MarkupReading) : List Char := (reading.reveal reading.pending).shown

end MarkupReading

/-- Control characters that are never shown: bell, backspace, vertical tab, form feed and
carriage return. -/
def isHiddenControl (char : Char) : Bool := [0x07, 0x08, 0x0B, 0x0C, 0x0D].contains char.toNat

def plainText (text : String) : Except MarkupFault (List Char) :=
  match pieces (· == '[') text.toList with
  | [] => .ok []
  | first :: rest =>
    (rest.foldlM MarkupReading.read ({ pending := first } : MarkupReading)).map fun reading =>
      reading.close.filter fun char => !isHiddenControl char

end ForwardedClient.Console
