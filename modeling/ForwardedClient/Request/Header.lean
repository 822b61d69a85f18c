import ForwardedClient.Text.Case
import ForwardedClient.Text.Latin

/-!
Contract: the header list of a request.

Owns: `Header`, names and values as bytes in the order in which they arrived, look-up by a
lower-case name, replacement and removal.

Does not own: what any header means. Names are compared byte for byte, so a name that
arrived with capitals is found by none of these functions.
-/

namespace ForwardedClient.Request

open ForwardedClient.Text

structure Header where
  name : LatinText
  value : LatinText
deriving DecidableEq

/-- The bytes under which a header is looked up and written: its name in lower case. -/
def headerName (name : String) : Except EncodeError LatinText := LatinText.encode (lower name)

def hostHeader : LatinText := { text := "host" }

namespace Headers

def values (headers : List Header) (name : LatinText) : List String :=
  (headers.filter (·.name = name)).map (·.value.text)

def first? (headers : List Header) (name : LatinText) : Option String :=
  (headers.find? (·.name = name)).map (·.value.text)

def erase (headers : List Header) (name : LatinText) : List Header :=
  headers.filter (·.name ≠ name)

/-- Leaves one occurrence of a header, in the place of the first one or at the end. -/
def set : List Header → LatinText → LatinText → List Header
  | [], name, value => [⟨name, value⟩]
  | header :: rest, name, value =>
    if header.name = name then ⟨name, value⟩ :: erase rest name
    else header :: set rest name value

theorem values_erase (headers : List Header) (name : LatinText) :
    values (erase headers name) name = [] := by
  simp [values, erase]

theorem values_set (headers : List Header) (name value : LatinText) :
    values (set headers name value) name = [value.text] := by
  induction headers with
  | nil => simp [set, values]
  | cons header rest inductionHypothesis =>
    unfold set
    split
    · simpa [values] using values_erase rest name
    · rename_i other
      simpa [values, other] using inductionHypothesis

end Headers

end ForwardedClient.Request
