import ForwardedClient.Request.Basic

/-!
Contract: what a request was like before the forwarded view was put on.

Owns: `Snapshot`, taken before the first change, and `Snapshot.restore`, which writes it
back: entries that were missing are missing again, and the header list is the old one in its
old order.

Does not own: the changes in between.
-/

namespace ForwardedClient.Request

open ForwardedClient.Data
open ForwardedClient.Text

structure Snapshot where
  remoteAddress : Option String
  remoteHost : Option Datum
  schemeName : String
  secure : Bool
  serverName : Option String
  serverPort : Option Int
  localName : Option String
  localPort : Option Int
  managed : List (String × List String)
  client : Slot Endpoint
  scheme : Option String
  server : Slot Endpoint
  headers : List Header

namespace Snapshot

/-- Puts a name into its place among names in order, unless it stands there already. -/
def insertName (name : String) : List String → List String
  | [] => [name]
  | other :: rest =>
    if name = other then other :: rest
    else if name < other then name :: other :: rest
    else other :: insertName name rest

/-- The names of the managed headers in lower case, each once and in order, with the host
header among them. -/
def managedNames (names : List String) : List String :=
  ("host" :: names.map lower).foldr insertName []

/-- The values of the managed headers; the first name that cannot stand on the wire is a
fault. -/
def managedValues (headers : List Header) : List String → Except Fault (List (String × List String))
  | [] => .ok []
  | name :: rest =>
    match headerName name with
    | .error cause => .error (.notLatin cause)
    | .ok bytes =>
      (managedValues headers rest).map fun others =>
        (name, Headers.values headers bytes) :: others

/-- The remote host of a state; null counts as none. -/
def remoteHostOf (state : Slot Fields) : Option Datum :=
  match state.get?.bind (·.find? remoteHostKey) with
  | some .null => none
  | entry => entry

def capture (request : Request) (names : List String) (withLocalName : Bool := true) :
    Except Fault Snapshot := do
  let headers ← request.headerList
  let (serverName, serverPort) := nameAndPort request.isSecure headers request.server
  let managed ← managedValues headers (managedNames names)
  let localEnd := request.server.get?
  return {
    remoteAddress := request.client.get?.map (·.host)
    remoteHost := remoteHostOf request.state
    schemeName := request.schemeName
    secure := request.isSecure
    serverName
    serverPort
    localName := if withLocalName then localEnd.map (·.host) else none
    localPort := localEnd.bind (·.port)
    managed
    client := request.client
    scheme := request.scheme
    server := request.server
    headers }

/-- Writes the snapshot back. A state that has become null stops it before the headers. -/
def restore (snapshot : Snapshot) (request : Request) : Request × Option Fault :=
  let ends := ({ request with
    client := snapshot.client, scheme := snapshot.scheme, server := snapshot.server }
    : Request).ensureState
  match ends.state, snapshot.remoteHost with
  | .value fields, none =>
    ({ ends with
      state := .value (fields.erase remoteHostKey), headers := some snapshot.headers }, none)
  | .value fields, some host =>
    ({ ends with
      state := .value (fields.set remoteHostKey host), headers := some snapshot.headers }, none)
  | _, none => (ends, some (.nullState .remove))
  | _, some _ => (ends, some (.nullState .put))

end Snapshot

end ForwardedClient.Request
