import ForwardedClient.Text.Quoted

/-!
Contract: text that can stand on the wire as one byte per character.

Owns: `LatinText`, texts whose characters are all below U+0100, the encoder from arbitrary
text, and the failure it reports.

Does not own: header names and values, which are made of such text.
-/

namespace ForwardedClient.Text

/-- Whether a character is one byte on the wire. -/
def isLatin (char : Char) : Bool := char.toNat < 0x100

/-- A text of bytes, one character per byte. -/
structure LatinText where
  text : String
  latin : text.toList.all isLatin = true := by decide
deriving DecidableEq

instance : Inhabited LatinText := ⟨⟨"", by decide⟩⟩

/-- The first run of characters that do not fit into a byte each, and where it begins. -/
structure EncodeError where
  position : Nat
  run : List Char
deriving DecidableEq

namespace EncodeError

/-- Names the character, or the span of a longer run. -/
def message (failure : EncodeError) : String :=
  let subject :=
    match failure.run with
    | [char] => "character '" ++ codeEscape char.toNat ++ "' in position " ++
        toString failure.position
    | run => "characters in position " ++ toString failure.position ++ "-" ++
        toString (failure.position + run.length - 1)
  "'latin-1' codec can't encode " ++ subject ++ ": ordinal not in range(256)"

end EncodeError

namespace LatinText

def encode (text : String) : Except EncodeError LatinText :=
  if latin : text.toList.all isLatin = true then
    .ok ⟨text, latin⟩
  else
    let fitting := text.toList.takeWhile isLatin
    let others := text.toList.dropWhile isLatin
    .error ⟨fitting.length, others.takeWhile fun char => !isLatin char⟩

theorem encode_text (value : LatinText) : encode value.text = .ok value := by
  simp [encode, value.latin]

theorem text_of_encode {text : String} {value : LatinText} (encoded : encode text = .ok value) :
    value.text = text := by
  unfold encode at encoded
  split at encoded
  · injection encoded with same
    rw [← same]
  · simp at encoded

end LatinText

end ForwardedClient.Text
