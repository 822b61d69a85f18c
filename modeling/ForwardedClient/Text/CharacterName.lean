import ForwardedClient.Text.Hex
import ForwardedClient.Text.NameTable.Alphabets
import ForwardedClient.Text.NameTable.Extensions
import ForwardedClient.Text.NameTable.Historic
import ForwardedClient.Text.NameTable.Notation
import ForwardedClient.Text.NameTable.Pictographs
import ForwardedClient.Text.NameTable.Scripts
import ForwardedClient.Text.NameTable.SecondNames
import ForwardedClient.Text.NameTable.Signs
import ForwardedClient.Text.NameTable.Symbols

/-!
Contract: characters by name.

Owns: `characterByName?`, which knows every name of Unicode 14: those of the tables, without
regard to small and capital letters, names that end in a code point, and the names of
syllables, which are put together from those of their letters.

Does not own: the tables, and names of sequences of characters.
-/

namespace ForwardedClient.Text

def characterNames : List (List NameRun) :=
  [alphabetNames, scriptNames, symbolNames, extensionNames, historicNames, signNames,
    notationNames, pictographNames, secondNames]

def capitalAscii (char : Char) : Char :=
  if 'a' ≤ char && char ≤ 'z' then Char.ofNat (char.toNat - 0x20) else char

def isInRanges (ranges : List (Nat × Nat)) (code : Nat) : Bool :=
  ranges.any fun range => range.1 ≤ code && code ≤ range.2

/-! ### Names that end in a code point -/

def numberedNames : List (String × List (Nat × Nat)) :=
  [("CJK COMPATIBILITY IDEOGRAPH-", [(0xF900, 0xFA6D), (0xFA70, 0xFAD9), (0x2F800, 0x2FA1D)]),
    ("KHITAN SMALL SCRIPT CHARACTER-", [(0x18B00, 0x18CD5)]),
    ("NUSHU CHARACTER-", [(0x1B170, 0x1B2FB)])]

/-- The character whose code point ends its name, in capital digits and without leading zeros. -/
def numberedCharacter? (name : List Char) : Option Nat :=
  numberedNames.findSome? fun (stem, ranges) =>
    let code := hexValue (name.drop stem.length)
    if isInRanges ranges code &&
        name == stem.toList ++ (Nat.toDigits 16 code).map capitalAscii then some code
    else none

def ideographStem : List Char := "CJK UNIFIED IDEOGRAPH-".toList

def ideographRanges : List (Nat × Nat) :=
  [(0x3400, 0x4DBF), (0x4E00, 0x9FFF), (0x20000, 0x2A6DF), (0x2A700, 0x2B738),
    (0x2B740, 0x2B81D), (0x2B820, 0x2CEA1), (0x2CEB0, 0x2EBE0), (0x30000, 0x3134A)]

/-- An ideograph by the digits of its code point, which may begin with a zero. -/
def ideograph? (digits : List Char) : Option Nat :=
  let code := hexValue digits
  let areCapital := digits.all fun digit => isHexDigit digit && capitalAscii digit == digit
  if (digits.length == 4 || digits.length == 5) && areCapital && isInRanges ideographRanges code
  then some code else none

/-! ### Names of syllables -/

def syllableStem : List Char := "HANGUL SYLLABLE ".toList

def leadingLetters : List String :=
  ["G", "GG", "N", "D", "DD", "R", "M", "B", "BB", "S", "SS", "", "J", "JJ", "C", "K", "T", "P",
    "H"]

def vowelLetters : List String :=
  ["A", "AE", "YA", "YAE", "EO", "E", "YEO", "YE", "O", "WA", "WAE", "OE", "YO", "U", "WEO", "WE",
    "WI", "YU", "EU", "YI", "I"]

def trailingLetters : List String :=
  ["", "G", "GG", "GS", "N", "NJ", "NH", "D", "L", "LG", "LM", "LB", "LS", "LT", "LP", "LH", "M",
    "B", "BS", "S", "SS", "NG", "J", "C", "K", "T", "P", "H"]

/-- Takes the longest letter with which a text begins: its index, and the text after it. -/
def takeLetter? (letters : List String) (text : List Char) : Option (Nat × List Char) :=
  let longest := letters.foldl (fun (longest : Option String) letter =>
    if letter.toList.isPrefixOf text && longest.all (·.length < letter.length) then some letter
    else longest) none
  longest.map fun letter => (letters.idxOf letter, text.drop letter.length)

/-- A syllable by its letters: a leading one, a vowel and a trailing one. -/
def syllable? (letters : List Char) : Option Nat := do
  let (leading, rest) ← takeLetter? leadingLetters letters
  let (vowel, rest) ← takeLetter? vowelLetters rest
  let (trailing, rest) ← takeLetter? trailingLetters rest
  guard rest.isEmpty
  return 0xAC00 +
    (leading * vowelLetters.length + vowel) * trailingLetters.length + trailing

/-- The code point of the character with a name. -/
def characterByName? (name : String) : Option Nat :=
  let name := name.toList
  if syllableStem.isPrefixOf name then syllable? (name.drop syllableStem.length)
  else if ideographStem.isPrefixOf name then ideograph? (name.drop ideographStem.length)
  else
    let capital := name.map capitalAscii
    (characterNames.findSome? fun runs => runs.findSome? (·.find? capital)).or
      (numberedCharacter? capital)

end ForwardedClient.Text
