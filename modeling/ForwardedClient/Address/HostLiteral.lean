import ForwardedClient.Address.Ipv6
import ForwardedClient.Text.Letter

/-!
Contract: host literals, a name with an optional port.

Owns: `HostLiteral`, its reader with one cause per way to fail, and `formatHost`, which
writes a name with a port number.

Does not own: the value of a port; the literal keeps the port as text, because a proxy may
withhold it behind a token that begins with a low line.
-/

namespace ForwardedClient.Address

open ForwardedClient.Text

/-- A host name, IPv4 address or bracketed IPv6 address with the text of its port. -/
structure HostLiteral where
  name : String
  port : Option String := none
deriving DecidableEq

/-- Why a text is no host literal; all but the first keep the text as it was written. -/
inductive HostError where
  | empty
  | unterminatedIpv6 (text : String)
  | invalidIpv6 (text : String)
  | dataAfterIpv6 (text : String)
  | invalidName (text : String)
  | invalidPort (text : String)
deriving DecidableEq

def HostError.message : HostError → String
  | .empty => "Empty host"
  | .unterminatedIpv6 text => "Unterminated IPv6 literal: " ++ text
  | .invalidIpv6 text => "Invalid IPv6 literal: " ++ text
  | .dataAfterIpv6 text => "Unexpected data after IPv6 literal: " ++ text
  | .invalidName text => "Invalid host name: " ++ text
  | .invalidPort text => "Invalid port in host: " ++ text

/-- Characters inside a label; its ends are letters or digits. -/
def isLabelChar (char : Char) : Bool := isAsciiAlphanumeric char || char == '_' || char == '-'

/-- A non-empty label that begins and ends with a letter or digit. -/
def isLabel (label : List Char) : Bool :=
  (label.head?.any isAsciiAlphanumeric) && (label.getLast?.any isAsciiAlphanumeric) &&
    label.all isLabelChar

/-- Labels between full stops, with an optional final full stop. -/
def isHostName (text : List Char) : Bool :=
  let labels := pieces (· == '.') text
  let labels := if labels.getLast? == some [] then labels.dropLast else labels
  !labels.isEmpty && labels.all isLabel

/-- Characters of a withheld port after its low line. -/
def isTokenChar (char : Char) : Bool :=
  isAsciiAlphanumeric char || char == '.' || char == '_' || char == '-'

/-- A port in a literal: one to five digits, or a low line and at least one token character. -/
def isPortText : List Char → Bool
  | '_' :: token => !token.isEmpty && token.all isTokenChar
  | digits => !digits.isEmpty && digits.length ≤ 5 && digits.all isAsciiDigit

namespace HostLiteral

def isIpv6 (host : HostLiteral) : Bool := host.name.toList.head? == some '['

def address (host : HostLiteral) : String :=
  if host.isIpv6 then String.ofList host.name.toList.tail.dropLast else host.name

/-- Whether the port is a token that withholds the number. -/
def hasWithheldPort (host : HostLiteral) : Bool :=
  host.port.any fun port => port.toList.head? == some '_'

/-- The literal of a checked name whose port text, if there is one, has yet to be checked. -/
def withPort (whole : String) (name : List Char) :
    Option (List Char) → Except HostError HostLiteral
  | none => .ok ⟨String.ofList name, none⟩
  | some port =>
    if isPortText port then .ok ⟨String.ofList name, some (String.ofList port)⟩
    else .error (.invalidPort whole)

/-- Reads a host literal. A text that begins with a bracket is split at the first closing
bracket, any other text at its first colon. -/
def read (text : String) : Except HostError HostLiteral :=
  match text.toList with
  | [] => .error .empty
  | '[' :: rest =>
    match partitionAt (· == ']') rest with
    | (_, none) => .error (.unterminatedIpv6 text)
    | (address, some after) =>
      if Address.isIpv6 address then
        let name := '[' :: address ++ [']']
        match after with
        | [] => withPort text name none
        | ':' :: port => withPort text name (some port)
        | _ => .error (.dataAfterIpv6 text)
      else .error (.invalidIpv6 text)
  | chars =>
    let (name, port) := partitionAt (· == ':') chars
    if isHostName name then withPort text name port else .error (.invalidName text)

end HostLiteral

/-- Writes a name and an optional port number; a name with a colon gets brackets unless it
begins with one. -/
def formatHost (name : String) (port : Option Int := none) : String :=
  let shown :=
    if name.toList.contains ':' && name.toList.head? != some '[' then "[" ++ name ++ "]"
    else name
  match port with
  | none => shown
  | some port => shown ++ ":" ++ toString port

end ForwardedClient.Address
