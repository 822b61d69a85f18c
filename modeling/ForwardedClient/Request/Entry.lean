import ForwardedClient.Request.Basic

/-!
Contract: single entries of a request.

Owns: `Entry`, an entry together with what it is set to, and `Request.put`.

Does not own: edits that look at what was there before.
-/

namespace ForwardedClient

open ForwardedClient.Data

namespace Request

/-- An entry and its new content; without content it is removed. -/
inductive Entry where
  | kind (content : Option String)
  | scheme (content : Option String)
  | path (content : Option String)
  | version (content : Option String)
  | headers (content : Option (List Header))
  | client (content : Slot Endpoint)
  | server (content : Slot Endpoint)
  | state (content : Slot Fields)
  | further (name : String) (content : Option Datum)

def put (request : Request) : Entry → Request
  | .kind content => { request with kind := content }
  | .scheme content => { request with scheme := content }
  | .path content => { request with path := content }
  | .version content => { request with version := content }
  | .headers content => { request with headers := content }
  | .client content => { request with client := content }
  | .server content => { request with server := content }
  | .state content => { request with state := content }
  | .further name content =>
    { request with
      further := content.elim (request.further.erase name) (request.further.set name) }

end Request

end ForwardedClient
