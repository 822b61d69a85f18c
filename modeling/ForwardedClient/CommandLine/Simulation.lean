import ForwardedClient.Data.Display
import ForwardedClient.Middleware.Program

/-!
Contract: what a made-up request looks like before, inside and after its handling.

Owns: `Client`, who sends the request, the request that is made for it, `describe`, the
points of a request worth showing, and `simulate`.

Does not own: how the points are laid out.
-/

namespace ForwardedClient.CommandLine

open ForwardedClient.Data
open ForwardedClient.Middleware
open ForwardedClient.Request
open ForwardedClient.Text

/-- The sender of a made-up request: the peer, the host header, the scheme and the other
headers. -/
structure Client where
  peer : String
  host : String
  scheme : String
  headers : List (String × String) := []

namespace Client

/-- A header with its name in lower case. -/
def header (name value : String) : Except EncodeError Header := do
  let name ← headerName name
  return ⟨name, ← LatinText.encode value⟩

def request (client : Client) : Except EncodeError Request := do
  let host ← LatinText.encode client.host
  let headers ← client.headers.mapM fun entry => header entry.1 entry.2
  return {
    kind := some "http"
    scheme := some client.scheme
    path := some "/"
    version := some "1.1"
    headers := some (⟨hostHeader, host⟩ :: headers)
    client := .value ⟨client.peer, some 50000⟩
    server := .value ⟨"127.0.0.1", some 8080⟩ }

end Client

/-- The points of a request worth showing, by name. -/
abbrev Description := List (String × String)

namespace Description

/-- Sets a point: in its place if the name is known, else at the end. -/
def set : Description → String → String → Description
  | [], name, value => [(name, value)]
  | point :: rest, name, value =>
    if point.1 == name then (name, value) :: rest else point :: set rest name value

def find? (description : Description) (name : String) : Option String :=
  (List.find? (fun point => point.1 == name) description).map (·.2)

end Description

/-- How a header that is absent is shown. -/
def absent : String := "[dim]absent[/dim]"

def lastValue (headers : List Header) (name : String) : String :=
  ((headers.reverse.find? fun header => header.name.text == lower name).map
    (·.value.text)).getD absent

def shownHeaders (settings : Settings) : List String :=
  [settings.clientHeader, settings.proxiesHeader, Settings.standardHeader]

def describe (names : List String) (request : Request) : Except Fault Description := do
  let (name, port) ← request.serverNameAndPort
  let headers ← request.headerList
  let host ← request.stateEntry? remoteHostKey
  let points : Description :=
    [("remote address", ((request.client.get?).map (·.host)).getD "-"),
      ("remote host", (host.map Datum.display).getD "-"),
      ("scheme", request.scheme.getD "None"),
      ("server name", name.getD "None"),
      ("server port", shownPort port)]
  return names.foldl (fun points name => points.set name (lastValue headers name)) points

def seenRequest? (world : World) : Option Request :=
  world.events.findSome? fun event =>
    match event with
    | .called request _ => some request
    | _ => none

/-- What a request looks like to the application and after its handling. -/
structure Simulated where
  seen : Description
  restored : Description

/-- Handles a request in front of an application that does nothing. -/
def simulate (settings : Settings) (lookup : Lookup) (request : Request) :
    Except Failure Simulated :=
  let outcome := handle settings lookup (run lookup []) request {}
  let names := shownHeaders settings
  match outcome.failure, (seenRequest? outcome.world).map (describe names),
    describe names outcome.held.request with
  | some failure, _, _ => .error failure
  | none, some (.error fault), _ => .error (.request fault)
  | none, _, .error fault => .error (.request fault)
  | none, some (.ok seen), .ok restored => .ok ⟨seen, restored⟩
  | none, none, .ok restored => .ok ⟨[], restored⟩

end ForwardedClient.CommandLine
