import ForwardedClient.Chain.CommaList
import ForwardedClient.Claim.Host
import ForwardedClient.Claim.Protocol
import ForwardedClient.Forwarded.DirectiveMap
import ForwardedClient.Middleware.World
import ForwardedClient.Request.View
import ForwardedClient.Trust.Walk

/-!
Contract: what the headers of a request that came from a proxy say.

Owns: `resolve`, which turns the headers of either dialect into overrides: the client from
the walk, its host name, shortened chain headers, and scheme, server name and port from the
claims.

Does not own: whether the peer is a proxy, and how overrides are applied.
-/

namespace ForwardedClient.Middleware

open ForwardedClient.Claim
open ForwardedClient.Forwarded
open ForwardedClient.Journal
open ForwardedClient.Request
open ForwardedClient.Text
open ForwardedClient.Trust

/-! ### Headers by name -/

def headerValues (headers : List Header) (name : String) : Except Fault (List String) :=
  match headerName name with
  | .ok bytes => .ok (Headers.values headers bytes)
  | .error cause => .error (.notLatin cause)

/-- The first value of a header; a name that is not configured has none. -/
def claimValue (headers : List Header) (name : Option String) : Except Fault (Option String) :=
  match name.filter (!·.isEmpty) with
  | none => .ok none
  | some name => (headerValues headers name).map List.head?

/-! ### Shortened chain headers -/

/-- A header value; an empty one removes the header. -/
def unlessEmpty (value : String) : Option String := if value.isEmpty then none else some value

def setUpdate (updates : List (String × Option String)) (name : String) (value : Option String) :
    List (String × Option String) :=
  if updates.any (·.1 == name) then
    updates.map fun update => if update.1 == name then (name, value) else update
  else updates ++ [(name, value)]

/-- The chain headers after a walk: who was crossed, and what was not reached. If all of the
chain is trusted it stays and only the proxies are recorded. -/
def chainUpdates (settings : Settings) (walk : Walk) : List (String × Option String) :=
  if walk.isResolved then
    setUpdate [(settings.proxiesHeader, unlessEmpty (Chain.write walk.proxies))]
      settings.clientHeader (unlessEmpty (Chain.write walk.remaining))
  else if walk.chainProxies == 0 then []
  else [(settings.proxiesHeader, some (Chain.write walk.proxies))]

/-- The standard header after a walk. -/
def standardUpdates (map : DirectiveMap) (walk : Walk) : List (String × Option String) :=
  if !walk.isResolved && walk.chainProxies == 0 then []
  else
    let proxied := map.replace "by" walk.proxies
    let shortened := if walk.isResolved then proxied.replace "for" walk.remaining else proxied
    [(Settings.standardHeader, unlessEmpty shortened.write)]

/-! ### Claims -/

/-- What the claims say of scheme, server name and port. -/
structure ServerClaims where
  secure : Option Bool := none
  serverName : Option String := none
  serverPort : Option Int := none
deriving DecidableEq

namespace ServerClaims

def addProtocol (claims : ServerClaims) (claim : ProtocolClaim) : ServerClaims :=
  { claims with secure := some claim.secure, serverPort := some claim.port }

/-- A host claim gives the name, and the port if it has one. -/
def addHost (claims : ServerClaims) (claim : Option HostClaim) : ServerClaims :=
  match claim with
  | none => claims
  | some claim =>
    { claims with
      serverName := some claim.serverName
      serverPort := (claim.port.map Int.ofNat).orElse fun _ => claims.serverPort }

end ServerClaims

def protocolRules (settings : Settings) : ProtocolRules :=
  ⟨settings.secureValue, settings.plainPort.val, settings.securePort.val⟩

def protocolClaims (settings : Settings) (headers : List Header) : Step ServerClaims := do
  match settings.protocolHeader.filter (!·.isEmpty) with
  | none => return {}
  | some name =>
    let values ← Step.ofExcept (headerValues headers name)
    if values.isEmpty then
      return {}
    let port ← Step.ofExcept (claimValue headers settings.portHeader)
    let (claim, reports) := (protocolRules settings).resolve (Chain.read values) port
    Step.report reports
    return ServerClaims.addProtocol {} claim

def separateClaims (settings : Settings) (headers : List Header) : Step ServerClaims := do
  let claims ← protocolClaims settings headers
  match ← Step.ofExcept (claimValue headers settings.hostHeader) with
  | none => return claims
  | some claim =>
    let (host, reports) := HostClaim.resolve claim (settings.hostHeader.getD "")
    Step.report reports
    return claims.addHost host

/-- The claims of the standard header; of several host claims the first counts. -/
def standardClaims (settings : Settings) (map : DirectiveMap) : ServerClaims × List Report :=
  let (claims, reports) :=
    match map.values "proto" with
    | [] => (({} : ServerClaims), [])
    | protocols =>
      let (claim, reports) := (protocolRules settings).resolve protocols
      (ServerClaims.addProtocol {} claim, reports)
  match (map.values "host").head? with
  | none => (claims, reports)
  | some claim =>
    let (host, more) := HostClaim.resolve claim (Settings.standardHeader ++ " host")
    (claims.addHost host, reports ++ more)

/-! ### Resolution -/

/-- The host name of a resolved client, or its address if look-ups are off or fail. -/
def remoteHostOf (settings : Settings) (lookup : Lookup) (address : String) : Step String := do
  if !settings.looksUpNames then
    return address
  modify fun world => { world with lookups := world.lookups ++ [address] }
  match lookup address with
  | .ok name => return name
  | .error failure =>
    Step.report [.trace ("Reverse lookup failed for " ++ address ++ ": " ++ failure.message)]
    return address

/-- The host name of the client of a walk. -/
def walkHost (settings : Settings) (lookup : Lookup) (walk : Walk) : Step (Option String) :=
  match walk.client with
  | none => return none
  | some address => some <$> remoteHostOf settings lookup address

/-- The overrides that a walk, its host name, header updates and claims amount to. -/
def overridesOf (walk : Walk) (host : Option String) (updates : List (String × Option String))
    (claims : ServerClaims) : Overrides :=
  { remoteAddress := walk.client
    remoteHost := host
    secure := claims.secure
    serverName := claims.serverName
    serverPort := claims.serverPort
    headers := updates }

/-- Resolves a request whose peer is a proxy. -/
def resolve (settings : Settings) (lookup : Lookup) (request : Request) (peer : String) :
    Step Overrides := do
  let headers ← Step.ofExcept request.headerList
  if settings.standardHeaderOnly then
    let values ← Step.ofExcept (headerValues headers Settings.standardHeader)
    let (map, reports) := DirectiveMap.read values
    Step.report reports
    let walk := walk settings.rules (map.values "for") peer
    let host ← walkHost settings lookup walk
    let (claims, reports) := standardClaims settings map
    Step.report reports
    return overridesOf walk host (standardUpdates map walk) claims
  else
    let chain := Chain.read (← Step.ofExcept (headerValues headers settings.clientHeader))
    let walk := walk settings.rules chain peer
    let host ← walkHost settings lookup walk
    let claims ← separateClaims settings headers
    return overridesOf walk host (chainUpdates settings walk) claims

end ForwardedClient.Middleware
