import ForwardedClient.Text.Hex
import ForwardedClient.Text.Printable

/-!
Contract: the quoted spelling of a text in messages.

Owns: `quoted` for texts, `quotedBytes` for byte strings, and the numbered escape of one
code point.

Does not own: the JSON spelling of a text.
-/

namespace ForwardedClient.Text

/-- The shortest numbered escape: two, four or eight hexadecimal digits. -/
def codeEscape (code : Nat) : String :=
  if code ≤ 0xFF then "\\x" ++ hexNumeral 2 code
  else if code ≤ 0xFFFF then "\\u" ++ hexNumeral 4 code
  else "\\U" ++ hexNumeral 8 code

/-- Single quotes, unless the text holds a single quote and no double quote. -/
def quoteFor (text : List Char) : Char :=
  if text.contains '\'' && !text.contains '"' then '"' else '\''

/-- One character between quotes; `isShown` tells which characters stand for themselves. -/
def quotedChar (isShown : Char → Bool) (quote char : Char) : String :=
  if char == quote || char == '\\' then String.ofList ['\\', char]
  else if char == '\t' then "\\t"
  else if char == '\n' then "\\n"
  else if char == '\r' then "\\r"
  else if isShown char then String.singleton char
  else codeEscape char.toNat

/-- A text between quotes, with escapes for what is not shown as it is. -/
def quotedWith (isShown : Char → Bool) (text : String) : String :=
  let quote := quoteFor text.toList
  let body := text.toList.foldl (fun shown char => shown ++ quotedChar isShown quote char) ""
  String.singleton quote ++ body ++ String.singleton quote

/-- A text in quotes; unprintable characters are escaped. -/
def quoted (text : String) : String := quotedWith isPrintable text

/-- A byte string in quotes, one character per byte; bytes outside printable ASCII are
escaped. -/
def quotedBytes (text : String) : String :=
  "b" ++ quotedWith (fun char => 0x20 ≤ char.toNat && char.toNat < 0x7F) text

end ForwardedClient.Text
