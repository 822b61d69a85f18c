import ForwardedClient.Text.Blank
import ForwardedClient.Text.Pieces

/-!
Contract: headers as they are written on the command line.

Owns: `readHeaderOption`, which takes a name and a value with a colon between them.

Does not own: how such a header is written on the wire. Blanks around name and value do not
count, and a name must be left.
-/

namespace ForwardedClient.CommandLine

open ForwardedClient.Text

/-- The name and the value of a header, or `none` if there is no colon or no name. -/
def readHeaderOption (header : String) : Option (String × String) :=
  match partitionAt (· == ':') header.toList with
  | (_, none) => none
  | (name, some value) =>
    if (strip name).isEmpty then none
    else some (String.ofList (strip name), String.ofList (strip value))

end ForwardedClient.CommandLine
