import ForwardedClient.Middleware.Handle
import ForwardedClient.Request.Url

/-!
Contract: the service that tells a caller how it is seen.

Owns: `Whoami.describe`, what one request looks like to an application, and `Whoami.serve`,
the answer to a request together with the request after it.

Does not own: any other path.
-/

namespace ForwardedClient.Service

open ForwardedClient.Data
open ForwardedClient.Middleware
open ForwardedClient.Request

namespace Whoami

def path : String := "/whoami"

def headerFields (headers : List Header) : List String → Except Fault Fields
  | [] => .ok []
  | name :: rest => do
    let value := (← headerValues headers name).head?
    let others ← headerFields headers rest
    return (name, Settings.optionalText value) :: others

def describe (settings : Settings) (request : Request) : Except Fault Fields := do
  let headers ← request.headerList
  let host ← request.remoteHost
  let location ← Location.ofRequest request
  let forwarded ← request.isForwarded
  let shown ← headerFields headers
    [settings.clientHeader, settings.proxiesHeader, Settings.standardHeader]
  let log ← request.stateEntry? accessLogKey
  return [("client", .text request.clientAddress), ("remote_host", host),
    ("scheme", .text location.scheme), ("server_name", Settings.optionalText location.host),
    ("server_port", (location.port.map fun port => Datum.int port).getD .null),
    ("forwarded", .bool forwarded), ("headers", .object (Fields.update [] shown)),
    ("access_log", log.getD .null)]

structure Response where
  status : Nat
  body : Fields
  request : Request

/-- Answers a request; other paths are not found. -/
def serve (settings : Settings) (lookup : Lookup) (request : Request) : Except Failure Response :=
  let prepared := prepare settings lookup request {}
  match prepared.fault with
  | some fault => .error (.request fault)
  | none =>
    let outcome := finish prepared.view ⟨⟨prepared.request, none⟩, prepared.world, none⟩
    let answer :=
      if request.path = some path then
        (describe settings prepared.request).map fun body => (200, body)
      else .ok (404, [("detail", .text "Not Found")])
    match outcome.failure, answer with
    | some failure, _ => .error failure
    | none, .error fault => .error (.request fault)
    | none, .ok (status, body) => .ok ⟨status, body, outcome.held.request⟩

end Whoami

end ForwardedClient.Service
