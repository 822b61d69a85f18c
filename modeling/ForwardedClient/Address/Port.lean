import ForwardedClient.Text.Blank
import ForwardedClient.Text.Digit

/-!
Contract: port numbers written as text.

Owns: `readPort`, which accepts one to five ASCII digits up to 65535 between blanks, and its
two failures.

Does not own: withheld ports, which are part of a host literal.
-/

namespace ForwardedClient.Address

open ForwardedClient.Text

def maxPort : Nat := 65535

def isPortNumeral (text : List Char) : Bool :=
  !text.isEmpty && text.length ≤ 5 && text.all isAsciiDigit

/-- Why a text is no port number; each cause keeps the text as it was written. -/
inductive PortError where
  | notNumeral (text : String)
  | outOfRange (text : String)
deriving DecidableEq

def PortError.message : PortError → String
  | .notNumeral text => "Invalid port: " ++ text
  | .outOfRange text => "Port out of range: " ++ text

/-- Reads a port number; blanks around it are ignored. -/
def readPort (text : String) : Except PortError Nat :=
  let digits := strip text.toList
  if isPortNumeral digits then
    let port := decimalValue digits
    if port ≤ maxPort then .ok port else .error (.outOfRange text)
  else .error (.notNumeral text)

theorem readPort_le {text : String} {port : Nat} (read : readPort text = .ok port) :
    port ≤ maxPort := by
  unfold readPort at read
  simp only at read
  split at read
  · split at read
    · injection read with same
      omega
    · simp at read
  · simp at read

end ForwardedClient.Address
