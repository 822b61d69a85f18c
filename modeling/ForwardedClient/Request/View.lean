import ForwardedClient.Request.Snapshot

/-!
Contract: the forwarded view of a request.

Owns: `Overrides`, what is known of the client from its proxies, `ForwardedView`, the headers
it may change and the snapshot it goes back to, and `enter` and `exit`, which put the view on
and take it off.

Does not own: where the overrides come from. A step that fails leaves the changes made before
it, and the snapshot, so that they can be undone.
-/

namespace ForwardedClient.Request

open ForwardedClient.Data
open ForwardedClient.Text

/-- Values that replace those of the request; a header without a value is removed. -/
structure Overrides where
  remoteAddress : Option String := none
  remoteHost : Option String := none
  secure : Option Bool := none
  serverName : Option String := none
  serverPort : Option Int := none
  headers : List (String × Option String) := []

/-- The headers that a view may change, whether it also changes the local endpoint, and the
snapshot it was entered from. -/
structure ForwardedView where
  names : List String
  changesLocalName : Bool := false
  changesLocalPort : Bool := false
  snapshot : Option Snapshot := none

/-! ### Steps on a request -/

/-- Replaces the client address; the port stays, or is zero if there was no client. -/
def withClient (request : Request) (address : Option String) : Request :=
  match address with
  | none => request
  | some host =>
    let port :=
      match request.client.get? with
      | some endpoint => endpoint.port
      | none => some 0
    { request with client := .value ⟨host, port⟩ }

/-- Replaces the scheme by the one for the kind of the request. -/
def withScheme (request : Request) (secure : Option Bool) : Request :=
  match secure with
  | none => request
  | some secure => { request with scheme := some (request.schemeFor secure) }

def Headers.assign (headers : List Header) (name : String) (value : Option String) :
    Except EncodeError (List Header) := do
  let name ← headerName name
  match value with
  | none => return Headers.erase headers name
  | some value => return Headers.set headers name (← LatinText.encode value)

/-- Sets or removes headers one after the other up to the first that cannot stand on the wire. -/
def Headers.assignAll (headers : List Header) :
    List (String × Option String) → List Header × Option EncodeError
  | [] => (headers, none)
  | (name, value) :: rest =>
    match Headers.assign headers name value with
    | .ok changed => assignAll changed rest
    | .error cause => (headers, some cause)

/-- The text of a host header; the default port is not written. -/
def hostText (secure : Bool) (name : String) (port : Option Int) : String :=
  Address.formatHost name (port.filter (· != defaultPort secure))

namespace ForwardedView

/-- The local endpoint under the overrides. -/
def localEnd (view : ForwardedView) (overrides : Overrides) (server : Slot Endpoint) :
    Slot Endpoint :=
  let newName := if view.changesLocalName then overrides.serverName else none
  let newPort := if view.changesLocalPort then overrides.serverPort else none
  match server.get?, newName with
  | some endpoint, name =>
    .value ⟨name.getD endpoint.host, newPort.orElse fun _ => endpoint.port⟩
  | none, some name => .value ⟨name, newPort⟩
  | none, none => server

/-- Writes server name and port into the host header and, if so configured, into the local
endpoint. What the overrides do not say stays as it was. -/
def setServer (view : ForwardedView) (overrides : Overrides) (snapshot : Snapshot)
    (request : Request) : Request × Option Fault :=
  let name := overrides.serverName.orElse fun _ => snapshot.serverName
  let port := overrides.serverPort.orElse fun _ => snapshot.serverPort
  let secure := overrides.secure.getD snapshot.secure
  let server := view.localEnd overrides request.server
  match name.map fun name => LatinText.encode (hostText secure name port) with
  | some (.error cause) => (request, some (.notLatin cause))
  | some (.ok host) =>
    let headers := request.headers.map fun headers => Headers.set headers hostHeader host
    ({ request with headers, server }, none)
  | none => ({ request with server }, none)

/-- Marks the request as forwarded, at the end. -/
def markForwarded (request : Request) : Request × Option Fault :=
  match request.putState forwardedKey (.bool true) with
  | .ok marked => (marked, none)
  | .error fault => (request, some fault)

def applyServer (view : ForwardedView) (overrides : Overrides) (snapshot : Snapshot)
    (request : Request) : Request × Option Fault :=
  if overrides.serverName.isNone && overrides.serverPort.isNone then markForwarded request
  else
    match view.setServer overrides snapshot request with
    | (changed, none) => markForwarded changed
    | failed => failed

def applyHeaders (view : ForwardedView) (overrides : Overrides) (snapshot : Snapshot)
    (request : Request) : Request × Option Fault :=
  match Headers.assignAll snapshot.headers overrides.headers with
  | (headers, some cause) => ({ request with headers := some headers }, some (.notLatin cause))
  | (headers, none) =>
    view.applyServer overrides snapshot { request with headers := some headers }

def apply (view : ForwardedView) (overrides : Overrides) (snapshot : Snapshot)
    (request : Request) : Request × Option Fault :=
  let addressed := request.ensureState.withClient overrides.remoteAddress
  let named : Except Fault Request :=
    match overrides.remoteHost with
    | none => .ok addressed
    | some host => addressed.putState remoteHostKey (.text host)
  match named with
  | .error fault => (addressed, some fault)
  | .ok named => view.applyHeaders overrides snapshot (named.withScheme overrides.secure)

structure Entered where
  view : ForwardedView
  request : Request
  fault : Option Fault

/-- Takes a snapshot and puts the view on. -/
def enter (view : ForwardedView) (overrides : Overrides) (request : Request) : Entered :=
  let names := view.names ++ overrides.headers.map (·.1)
  match Snapshot.capture request names view.changesLocalName with
  | .error fault => ⟨view, request, some fault⟩
  | .ok snapshot =>
    let (changed, fault) := view.apply overrides snapshot request
    ⟨{ view with snapshot := some snapshot }, changed, fault⟩

/-- Takes the view off again, unless the request is to keep it. -/
def exit (view : ForwardedView) (request : Request) (restore : Bool := true) :
    Request × Option Fault :=
  match view.snapshot with
  | some snapshot => if restore then snapshot.restore request else (request, none)
  | none => (request, none)

end ForwardedView

end ForwardedClient.Request
