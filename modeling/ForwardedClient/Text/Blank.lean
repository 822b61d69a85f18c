/-!
Contract: white space between the words of a text.

Owns: `isBlank`, the characters with the white-space property together with the four
information separators U+001C to U+001F, and `strip`, the removal of blanks at both ends.

Does not own: the narrower ASCII blanks of pattern comments.
-/

namespace ForwardedClient.Text

/-- Blank characters: the white-space property and the four information separators. -/
def isBlank (char : Char) : Bool :=
  let code := char.toNat
  (0x09 ≤ code && code ≤ 0x0D) || (0x1C ≤ code && code ≤ 0x20) || code == 0x85 ||
    code == 0xA0 || code == 0x1680 || (0x2000 ≤ code && code ≤ 0x200A) || code == 0x2028 ||
    code == 0x2029 || code == 0x202F || code == 0x205F || code == 0x3000

/-- The white-space property alone, without the information separators. -/
def isWhiteSpace (char : Char) : Bool :=
  isBlank char && !(0x1C ≤ char.toNat && char.toNat ≤ 0x1F)

/-- Removes the characters of a class from both ends of a text. -/
def stripWhile (drop : Char → Bool) (text : List Char) : List Char :=
  ((text.dropWhile drop).reverse.dropWhile drop).reverse

def strip (text : List Char) : List Char := stripWhile isBlank text

def stripText (text : String) : String := String.ofList (strip text.toList)

end ForwardedClient.Text
