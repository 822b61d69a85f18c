import ForwardedClient.Address.HostLiteral
import ForwardedClient.Journal.Level
import ForwardedClient.Text.Case

/-!
Contract: the directives of a Forwarded header, one pair at a time.

Owns: the one-pass scanner that yields raw pairs of key and value, and `normalize`, which
decides what a pair contributes and spells node identifiers without brackets.

Does not own: the map that collects the pairs of a request.
-/

namespace ForwardedClient.Forwarded

open ForwardedClient.Address
open ForwardedClient.Journal
open ForwardedClient.Text

/-- What the scanner holds: both parts of the current pair and which one is being read. -/
structure Scan where
  key : List Char := []
  value : List Char := []
  inKey : Bool := true

namespace Scan

def pair (scan : Scan) : String × String := (String.ofList scan.key, String.ofList scan.value)

/-- A character of the current pair: an equals sign begins the value, spaces and double
quotes are dropped. -/
def push (scan : Scan) (char : Char) : Scan :=
  if char == '=' then { scan with inKey := false }
  else if char == ' ' || char == '"' then scan
  else if scan.inKey then { scan with key := scan.key ++ [char] }
  else { scan with value := scan.value ++ [char] }

/-- The pairs of the rest of a value. Separators end a pair even if it is empty; the last
pair counts only if both of its parts are non-empty. -/
def run (scan : Scan) : List Char → List (String × String)
  | [] => if scan.key.isEmpty || scan.value.isEmpty then [] else [scan.pair]
  | char :: rest =>
    if char == ',' || char == ';' then scan.pair :: run {} rest else run (scan.push char) rest

end Scan

def pairs (value : String) : List (String × String) := Scan.run {} value.toList

def isKnown (directive : String) : Bool :=
  directive == "for" || directive == "by" || directive == "host" || directive == "proto"

/-- The directives whose values are nodes or hosts. -/
def hasAddress (directive : String) : Bool :=
  directive == "for" || directive == "by" || directive == "host"

/-- Whether a proxy withholds an address: a token after a low line, or `unknown`. -/
def isWithheld (value : String) : Bool :=
  value.toList.head? == some '_' || lower value == "unknown"

/-- The protocols that a proto directive may name. -/
def isProtocol (value : String) : Bool := lower value == "http" || lower value == "https"

/-- The unbracketed spelling of a `for` value; one that is no host literal stays as it is,
with a remark. -/
def unbracket (value : String) : String × List Report :=
  match HostLiteral.read value with
  | .error failure =>
    (value, [.trace ("Invalid Forwarded for value " ++ value ++ ": " ++ failure.message)])
  | .ok host =>
    match host.port with
    | none => (host.address, [])
    | some port => (host.address ++ ":" ++ port, [])

/-- What a raw pair contributes: the directive and its value, or nothing if the directive is
not known, the value is empty or withheld, or the protocol is not supported. -/
def normalize (key value : String) : Option (String × String) × List Report :=
  let directive := lower key
  if !isKnown directive || value.isEmpty then (none, [])
  else
    let (value, reports) :=
      if directive == "for" && value.toList.head? == some '[' then unbracket value
      else (value, [])
    if hasAddress directive then
      if isWithheld value then (none, reports) else (some (directive, value), reports)
    else if isProtocol value then (some (directive, value), reports)
    else (none, [.trace ("Ignoring unsupported Forwarded proto: " ++ value)])

end ForwardedClient.Forwarded
