import ForwardedClient.Text.Blank

/-!
Contract: address chains written with commas.

Owns: splitting a header value into its entries in one pass, joining repeated headers, and
writing a chain.

Does not own: what the entries mean. They stand from the oldest claim to the nearest hop.
-/

namespace ForwardedClient.Chain

open ForwardedClient.Text

/-- The entry read so far, as an entry of the list unless it is empty. -/
def closeEntry (entry : List Char) : List String :=
  if entry.isEmpty then [] else [String.ofList entry]

/-- Scans the rest of a value. `entry` is the entry read so far and `blanks` are the blanks
after it, which belong to the entry only if more of it follows. -/
def scanEntries (entry blanks : List Char) : List Char → List String
  | [] => closeEntry entry
  | char :: rest =>
    if char == ',' then closeEntry entry ++ scanEntries [] [] rest
    else if isBlank char then
      if entry.isEmpty then scanEntries [] [] rest
      else scanEntries entry (blanks ++ [char]) rest
    else scanEntries (entry ++ blanks ++ [char]) [] rest

/-- The entries of a header value in order: what stands between commas without the blanks
around it; empty entries and a missing value give nothing. -/
def split : Option String → List String
  | none => []
  | some value => scanEntries [] [] value.toList

def joinValues (values : List String) : String := String.intercalate ", " values

/-- The chain of all occurrences of a header. -/
def read (values : List String) : List String := split (some (joinValues values))

def write (chain : List String) : String := String.intercalate ", " chain

end ForwardedClient.Chain
