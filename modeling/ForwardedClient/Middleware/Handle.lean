import ForwardedClient.Middleware.Resolution

/-!
Contract: the handling of one request around an application.

Owns: `handle`, which puts the forwarded view on if the peer is a proxy, publishes what was
found, calls the application and takes the view off again however the application ended.

Does not own: what the application does. Requests of other kinds go to it as they are.
-/

namespace ForwardedClient.Middleware

open ForwardedClient.Data
open ForwardedClient.Journal
open ForwardedClient.Request

/-- A request after it was handed on. Others may hold the same state; if the request no
longer does, `parted` is what that state holds. -/
structure Held where
  request : Request
  parted : Option Fields := none

/-- How a call ended: the request, the world, and the failure if it was ended by one. -/
structure Outcome where
  held : Held
  world : World
  failure : Option Failure := none

abbrev Application := Request → World → Outcome

def shown (text : Option String) : String := text.getD "None"

def shownPort (port : Option Int) : String := (port.map toString).getD "None"

/-- The remark on a request whose forwarded view was put on. -/
def seenAs (request : Request) (snapshot : Snapshot) (name : Option String) (port : Option Int) :
    Report :=
  .trace ("Incoming request " ++ request.path.getD "" ++
    " with remote_addr=" ++ shown snapshot.remoteAddress ++
    ", scheme=" ++ snapshot.schemeName ++
    ", server=" ++ shown snapshot.serverName ++ ":" ++ shownPort snapshot.serverPort ++
    " will be seen as remote_addr=" ++ request.clientAddress ++
    ", scheme=" ++ shown request.scheme ++
    ", server=" ++ shown name ++ ":" ++ shownPort port)

def skipped (request : Request) (peer : Option String) : Report :=
  .trace ("Skipping forwarded headers for request " ++ request.path.getD "" ++
    " from untrusted peer " ++ shown peer)

def initialView (settings : Settings) : ForwardedView :=
  { names := settings.managedHeaders
    changesLocalName := settings.changesLocalName
    changesLocalPort := settings.changesLocalPort }

/-- What a call holds before the application runs. -/
structure Prepared where
  view : ForwardedView
  request : Request
  world : World
  fault : Option Fault := none

namespace Prepared

def andThen (prepared : Prepared) (next : Prepared → Prepared) : Prepared :=
  if prepared.fault.isNone then next prepared else prepared

end Prepared

def applyOverrides (overrides : Overrides) (prepared : Prepared) : Prepared :=
  let entered := prepared.view.enter overrides prepared.request
  let changed := { prepared with view := entered.view, request := entered.request }
  match entered.fault, entered.view.snapshot, entered.request.serverNameAndPort with
  | none, some snapshot, .ok (name, port) =>
    { changed with
      world := prepared.world.report [seenAs entered.request snapshot name port] }
  | fault, _, _ => { changed with fault }

/-- Looks at the peer: a proxy's headers are resolved, any other's are ignored. -/
def approach (settings : Settings) (lookup : Lookup) (prepared : Prepared) : Prepared :=
  let peer := prepared.request.client.get?.map (·.host)
  match peer.filter settings.rules.isProxy with
  | none => { prepared with world := prepared.world.report [skipped prepared.request peer] }
  | some address =>
    match (resolve settings lookup prepared.request address).run prepared.world with
    | (.ok overrides, world) => applyOverrides overrides { prepared with world }
    | (.error fault, world) => { prepared with world, fault := some fault }

def attributes (request : Request) (state : Fields) (name : Option String) (port : Option Int) :
    Fields :=
  let address := Settings.optionalText (request.client.get?.map (·.host))
  let host := ((state.find? remoteHostKey).filter Datum.isTruthy).getD address
  [("remote_addr", address), ("remote_host", host),
    ("protocol", .text ("HTTP/" ++ request.version.getD "1.1")),
    ("server_name", Settings.optionalText name),
    ("server_port", (port.map Datum.int).getD .null)]

def publish (prepared : Prepared) : Prepared :=
  let request := prepared.request
  match request.serverNameAndPort, request.state with
  | .error fault, _ => { prepared with fault := some fault }
  | .ok (name, port), .value state =>
    let entry := Datum.object (attributes request state name port)
    { prepared with
      request := { request with state := .value (state.set accessLogKey entry) } }
  | .ok _, _ => { prepared with fault := some (.nullState .get) }

/-- Ties the journal to the request. -/
def introduce (prepared : Prepared) : Prepared :=
  let request := prepared.request
  match request.serverNameAndPort with
  | .error fault => { prepared with fault := some fault }
  | .ok (name, _) =>
    { prepared with
      world := prepared.world.addContext
        [("remote_addr", Settings.optionalText (request.client.get?.map (·.host))),
          ("scheme", Settings.optionalText request.scheme),
          ("server_name", Settings.optionalText name)] }

/-- All that comes before the application. -/
def prepare (settings : Settings) (lookup : Lookup) (request : Request) (world : World) :
    Prepared :=
  let start : Prepared := ⟨initialView settings, request.ensureState, world, none⟩
  ((approach settings lookup start).andThen fun prepared =>
    if settings.publishesAttributes then publish prepared else prepared).andThen introduce

/-- All that comes after the application, however it ended. -/
def finish (view : ForwardedView) (outcome : Outcome) : Outcome :=
  match outcome.held.request.isSuspended with
  | .error fault => { outcome with failure := some (.request fault) }
  | .ok suspended =>
    let (request, fault) := view.exit outcome.held.request !suspended
    let held := { outcome.held with request }
    match fault with
    | some fault => { outcome with held, failure := some (.request fault) }
    | none => { outcome with held, world := outcome.world.clearContext }

def handleRequest (settings : Settings) (lookup : Lookup) (application : Application) :
    Application := fun request world =>
  let prepared := prepare settings lookup request world
  match prepared.fault with
  | some fault => ⟨⟨prepared.request, none⟩, prepared.world, some (.request fault)⟩
  | none => finish prepared.view (application prepared.request prepared.world)

def handle (settings : Settings) (lookup : Lookup) (application : Application) : Application :=
  fun request world =>
    match request.kind with
    | none => ⟨⟨request, none⟩, world, some (.request (.missing "type"))⟩
    | some kind =>
      if isHandledKind kind then handleRequest settings lookup application request world
      else application request world

end ForwardedClient.Middleware
