import ForwardedClient.Address.HostLiteral
import ForwardedClient.Address.Port
import ForwardedClient.Data.Basic
import ForwardedClient.Journal.Level
import ForwardedClient.Request.Fault
import ForwardedClient.Request.Header

/-!
Contract: a request as the server hands it on.

Owns: `Request` with entries that may be missing, the server name and port that an
application sees, and the small questions it may ask: who the client is, whether a proxy was
believed, and whether the request outlives its handling.

Does not own: how the forwarded view is put on and taken off.
-/

namespace ForwardedClient

open ForwardedClient.Address
open ForwardedClient.Data
open ForwardedClient.Journal
open ForwardedClient.Text

namespace Request

/-- An entry that may be missing, null or set. -/
inductive Slot (α : Type) where
  | missing
  | null
  | value (content : α)
deriving DecidableEq

namespace Slot

def get? {α : Type} : Slot α → Option α
  | .value content => some content
  | _ => none

def isMissing {α : Type} : Slot α → Bool
  | .missing => true
  | _ => false

end Slot

structure Endpoint where
  host : String
  port : Option Int := none
deriving DecidableEq

end Request

open ForwardedClient.Request

/-- A request with the entries that exist. `further` holds the entries that no part of the handling
looks at, such as the query. -/
structure Request where
  kind : Option String := none
  scheme : Option String := none
  path : Option String := none
  version : Option String := none
  headers : Option (List Header) := none
  client : Slot Endpoint := .missing
  server : Slot Endpoint := .missing
  state : Slot Fields := .missing
  further : Fields := []

namespace Request

/-! ### Names in the state -/

def remoteHostKey : String := "remote_host"
def forwardedKey : String := "request_forwarded"
def suspendedKey : String := "remote_ip_suspended"
def accessLogKey : String := "access_log"

/-! ### Scheme, server name and port -/

def schemeName (request : Request) : String := request.scheme.getD "http"

def isSecureScheme (scheme : String) : Bool := scheme == "https" || scheme == "wss"

def isSecure (request : Request) : Bool := isSecureScheme request.schemeName

def defaultPort (secure : Bool) : Int := if secure then 443 else 80

def schemeFor (request : Request) (secure : Bool) : String :=
  if request.kind = some "websocket" then if secure then "wss" else "ws"
  else if secure then "https" else "http"

/-- The name and port of a host header; without a usable port the default port counts, and
an unreadable text is itself the name. -/
def hostNameAndPort (secure : Bool) (host : String) : String × Int :=
  match HostLiteral.read host with
  | .error _ => (host, defaultPort secure)
  | .ok literal =>
    let usable := literal.port.filter fun _ => !literal.hasWithheldPort
    match usable.map readPort with
    | some (.ok port) => (literal.name, port)
    | _ => (literal.name, defaultPort secure)

/-- The server name and port of a header list and a local endpoint: a host header that is
not empty wins. -/
def nameAndPort (secure : Bool) (headers : List Header) (server : Slot Endpoint) :
    Option String × Option Int :=
  match (Headers.first? headers hostHeader).filter (!·.isEmpty) with
  | some host =>
    let (name, port) := hostNameAndPort secure host
    (some name, some port)
  | none =>
    match server.get? with
    | some endpoint => (some endpoint.host, endpoint.port)
    | none => (none, none)

def headerList (request : Request) : Except Fault (List Header) :=
  match request.headers with
  | some headers => .ok headers
  | none => .error (.missing "headers")

/-- The server name and port as the application sees them. -/
def serverNameAndPort (request : Request) : Except Fault (Option String × Option Int) :=
  request.headerList.map fun headers => nameAndPort request.isSecure headers request.server

def addHeader (request : Request) (header : Header) : Request :=
  { request with headers := some (request.headers.getD [] ++ [header]) }

/-! ### State -/

/-- Gives the request an empty state if it has none. -/
def ensureState (request : Request) : Request :=
  if request.state.isMissing then { request with state := .value [] } else request

/-- Sets an entry of the state, which is made if it is missing. -/
def putState (request : Request) (name : String) (value : Datum) : Except Fault Request :=
  match request.ensureState.state with
  | .value fields => .ok { request with state := .value (fields.set name value) }
  | _ => .error (.nullState .put)

def stateEntry? (request : Request) (name : String) : Except Fault (Option Datum) :=
  match request.state with
  | .missing => .ok none
  | .null => .error (.nullState .get)
  | .value fields => .ok (fields.find? name)

/-- Whether an entry of the state is set to a true value. -/
def hasMark (request : Request) (name : String) : Except Fault Bool :=
  (request.stateEntry? name).map fun entry => entry.any Datum.isTruthy

/-! ### Questions of an application -/

/-- Requests and web sockets; anything else the server may announce is not handled. -/
def isHandledKind (kind : String) : Bool := kind == "http" || kind == "websocket"

/-- Refuses what is neither a request nor a web socket. -/
def checkKind (request : Request) : Except Fault Unit :=
  match request.kind with
  | none => .error (.missing "type")
  | some kind => if isHandledKind kind then .ok () else .error .otherKind

def clientAddress (request : Request) : String :=
  match request.client.get? with
  | some endpoint => endpoint.host
  | none => "unknown"

/-- The name of the client's host, or its address. -/
def remoteHost (request : Request) : Except Fault Datum :=
  (request.stateEntry? remoteHostKey).map fun entry =>
    match entry.filter Datum.isTruthy with
    | some name => name
    | none => .text request.clientAddress

/-- Whether a proxy's account of the request was believed. -/
def isForwarded (request : Request) : Except Fault Bool := request.hasMark forwardedKey

/-- Whether the request outlives its handling. -/
def isSuspended (request : Request) : Except Fault Bool := request.hasMark suspendedKey

def markSuspended (request : Request) : Except Fault (Request × List Report) := do
  request.checkKind
  let marked ← request.putState suspendedKey (.bool true)
  return (marked, [.trace ("Request for " ++ request.clientAddress ++ " marked as suspended")])

structure Answers where
  clientAddress : String
  remoteHost : Datum
  forwarded : Bool
  suspended : Bool

def ask (request : Request) : Except Fault Answers := do
  let remoteHost ← request.remoteHost
  let forwarded ← request.isForwarded
  let suspended ← request.isSuspended
  return ⟨request.clientAddress, remoteHost, forwarded, suspended⟩

end Request

end ForwardedClient
