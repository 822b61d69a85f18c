import ForwardedClient.Text.Pieces

/-!
Contract: names of characters whose code points follow each other.

Owns: `NameRun`, a run of names that begin alike, and the code point of a name in it.

Does not own: the names themselves.
-/

namespace ForwardedClient.Text

/-- The names of successive code points: how all of them begin, and lines with their endings,
between semicolons. -/
structure NameRun where
  first : Nat
  stem : String
  endings : List String

namespace NameRun

def find? (run : NameRun) (name : List Char) : Option Nat :=
  if run.stem.toList.isPrefixOf name then
    let ending := name.drop run.stem.length
    let endings := run.endings.flatMap fun line => pieces (· == ';') line.toList
    (endings.findIdx? (· == ending)).map (run.first + ·)
  else none

end NameRun

end ForwardedClient.Text
