import ForwardedClient.Address.Ipv6
import ForwardedClient.Request.Basic
import ForwardedClient.Text.Case
import ForwardedClient.Text.Pieces

/-!
Contract: the URL that an application reconstructs from a request.

Owns: the text of that URL, and `Location`, the scheme, host and explicit port read back from
it.

Does not own: the server name that the journal shows, which keeps brackets and capitals. A
host header that names no host and port in the usual form does not count.
-/

namespace ForwardedClient.Request

open ForwardedClient.Address
open ForwardedClient.Text

structure Location where
  scheme : String := ""
  host : Option String := none
  port : Option Nat := none

namespace Location

/-! ### Writing the URL -/

def isHostChar (char : Char) : Bool := isAsciiAlphanumeric char || char == '.' || char == '-'

/-- What may stand between brackets: hexadecimal digits, a colon, and more of both or full
stops. -/
def isBracketed (text : List Char) : Bool :=
  match partitionAt (· == ':') text with
  | (start, some rest) =>
    start.all isHexDigit && !rest.isEmpty &&
      rest.all fun char => isHexDigit char || char == '.' || char == ':'
  | (_, none) => false

/-- Nothing, or a colon and a number. -/
def isPortPart : List Char → Bool
  | [] => true
  | ':' :: digits => !digits.isEmpty && digits.all isAsciiDigit
  | _ => false

/-- Whether a host header is a name or a bracketed address with an optional port. -/
def isUsualHost (text : List Char) : Bool :=
  match text with
  | '[' :: rest =>
    match partitionAt (· == ']') rest with
    | (address, some port) => isBracketed address && isPortPart port
    | (_, none) => false
  | _ =>
    let name := text.takeWhile isHostChar
    !name.isEmpty && isPortPart (text.drop name.length)

def schemePorts : List (String × Int) := [("http", 80), ("https", 443), ("ws", 80), ("wss", 443)]

/-- The host part made from a local endpoint: the default port of the scheme is left out. -/
def endpointPart (scheme : String) (endpoint : Endpoint) : Except UrlFault String :=
  match schemePorts.find? fun entry => entry.1 == scheme with
  | none => .error (.unknownScheme scheme)
  | some (_, port) =>
    if endpoint.port = some port then .ok endpoint.host
    else .ok (endpoint.host ++ ":" ++ (endpoint.port.map toString).getD "None")

/-- The URL of a request: a usual host header wins over the local endpoint; without both it
is the path alone. -/
def urlText (request : Request) : Except UrlFault String :=
  let path := request.path.getD ""
  let start := request.schemeName ++ "://"
  match (Headers.first? (request.headers.getD []) hostHeader).filter fun host =>
      isUsualHost host.toList, request.server.get? with
  | some host, _ => .ok (start ++ host ++ path)
  | none, some endpoint =>
    (endpointPart request.schemeName endpoint).map fun part => start ++ part ++ path
  | none, none => .ok path

/-! ### Reading the URL -/

/-- Characters of a scheme after its first letter. -/
def isSchemeChar (char : Char) : Bool :=
  isAsciiAlphanumeric char || char == '+' || char == '-' || char == '.'

/-- The scheme before the first colon, and the rest. -/
def splitScheme (text : List Char) : String × List Char :=
  match partitionAt (· == ':') text with
  | (first :: others, some rest) =>
    if isAsciiLetter first && others.all isSchemeChar then
      (lower (String.ofList (first :: others)), rest)
    else ("", text)
  | _ => ("", text)

/-- The characters that end the host part of a URL. -/
def endsHost (char : Char) : Bool := char == '/' || char == '?' || char == '#'

/-- An address of a later version: its version after a `v`, a full stop and some text. -/
def isFutureAddress (text : List Char) : Bool :=
  match partitionAt (· == '.') text.tail with
  | (version, some rest) => !version.isEmpty && version.all isHexDigit && !rest.isEmpty
  | (_, none) => false

def checkBracketed (text : List Char) : Except UrlFault Unit :=
  if text.head? == some 'v' then
    if isFutureAddress text then .ok () else .error .futureAddress
  else if isIpv6 text then .ok ()
  else if isIpv4 text then .error .bracketedIpv4
  else .error (.notAddress (String.ofList text))

def checkBrackets (part : List Char) : Except UrlFault Unit :=
  if part.contains '[' != part.contains ']' then .error .unbalancedBrackets
  else
    match partitionAt (· == '[') part with
    | (_, some rest) => checkBracketed (partitionAt (· == ']') rest).1
    | (_, none) => .ok ()

/-- A port up to the greatest one; an empty text is none. -/
def readPortPart (text : List Char) : Except UrlFault (Option Nat) :=
  if text.isEmpty then .ok none
  else if !text.all isAsciiDigit then .error (.portNotNumber (String.ofList text))
  else if decimalValue text ≤ maxPort then .ok (some (decimalValue text))
  else .error .portOutOfRange

/-- The texts of host and port in a host part, without user information and brackets. -/
def splitHost (part : List Char) : List Char × List Char :=
  let info := (part.reverse.takeWhile (· != '@')).reverse
  match partitionAt (· == '[') info with
  | (_, some bracketed) =>
    let (host, rest) := partitionAt (· == ']') bracketed
    (host, ((partitionAt (· == ':') (rest.getD [])).2).getD [])
  | (_, none) =>
    let (host, port) := partitionAt (· == ':') info
    (host, port.getD [])

/-- A host in lower case up to its zone; an empty text is none. -/
def readHostPart (text : List Char) : Option String :=
  let name := text.takeWhile (· != '%')
  let zone := text.dropWhile (· != '%')
  if text.isEmpty then none else some (lower (String.ofList name) ++ String.ofList zone)

/-- Reads a URL. Control characters and blanks in front do not count, nor do tabs and line
ends anywhere. -/
def read (url : String) : Except UrlFault Location := do
  let text := (url.toList.dropWhile fun char => char.toNat ≤ 0x20).filter fun char =>
    char != '\t' && char != '\n' && char != '\r'
  let (scheme, rest) := splitScheme text
  match rest with
  | '/' :: '/' :: rest =>
    let part := rest.takeWhile fun char => !endsHost char
    checkBrackets part
    let (host, port) := splitHost part
    return ⟨scheme, readHostPart host, ← readPortPart port⟩
  | _ => return { scheme }

def ofRequest (request : Request) : Except Fault Location :=
  match urlText request with
  | .error cause => .error (.url cause)
  | .ok url => (read url).mapError .url

end Location

end ForwardedClient.Request
