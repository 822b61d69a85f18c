import ForwardedClient.Proofs.Middleware.Progress

/-!
Contract: which claims an application sees when its proxies send several of them.

Owns: the scheme, server name and port of a request that came with protocol and host claims in
separate headers, told by the texts of these headers.

Does not own: requests without such claims, whose own scheme and server show.
-/

namespace ForwardedClient.Middleware

open ForwardedClient.Address
open ForwardedClient.Claim
open ForwardedClient.Request
open ForwardedClient.Text
open ForwardedClient.Trust

/-! ### Port claims -/

/-- The number that a port header claims: one to five digits between blanks, of a value that ports
can have. -/
def claimedPort? (claim : String) : Option Nat :=
  if isPortNumeral (strip claim.toList) = true ∧ decimalValue (strip claim.toList) ≤ maxPort then
    some (decimalValue (strip claim.toList))
  else none

theorem toOption_readPort (claim : String) : (readPort claim).toOption = claimedPort? claim := by
  unfold readPort claimedPort?
  by_cases numeral : isPortNumeral (strip claim.toList) = true
  · by_cases bounded : decimalValue (strip claim.toList) ≤ maxPort
    · simp [numeral, bounded, Except.toOption]
    · simp [numeral, bounded, Except.toOption]
  · simp [numeral, Except.toOption]

theorem claimedPort?_le {claim : String} {port : Nat} (claimed : claimedPort? claim = some port) :
    port ≤ maxPort := by
  unfold claimedPort? at claimed
  split at claimed
  · rename_i fits
    exact Option.some.inj claimed ▸ fits.2
  · exact nomatch claimed

/-- The port that counts: that of the host claim, or else that of the first port header, or else
the one that goes with the scheme. -/
def countedPort (settings : Settings) (secure : Bool) (ports : List String) (host : HostClaim) :
    Nat :=
  (host.port.orElse fun _ => ports.head?.bind claimedPort?).getD (impliedPort settings secure)

theorem countedPort_le (settings : Settings) (secure : Bool) (ports : List String)
    {host : HostClaim} (bounded : ∀ port, host.port = some port → port ≤ maxPort) :
    countedPort settings secure ports host ≤ maxPort := by
  unfold countedPort
  cases own : host.port with
  | some port => exact bounded port own
  | none =>
      cases claimed : ports.head?.bind claimedPort? with
      | none => exact impliedPort_le settings secure
      | some port =>
          obtain ⟨claim, -, read⟩ := Option.bind_eq_some_iff.mp claimed
          exact claimedPort?_le read

/-! ### Claims in order -/

/-- Whether all entries of the protocol headers, and at least one, name the secure value. -/
def IsSecuredBy (settings : Settings) (protocols : List String) : Prop :=
  Chain.read protocols ≠ [] ∧
    ∀ entry ∈ Chain.read protocols, lower entry = lower settings.secureValue

theorem isSecure_iff (settings : Settings) (protocols : List String) :
    (protocolRules settings).isSecure (Chain.read protocols) = true ↔
      IsSecuredBy settings protocols := by
  simp [ProtocolRules.isSecure, IsSecuredBy, protocolRules]

section Claims

variable {settings : Settings} {protocols ports others : List String} {claim : String}
  {host : HostClaim}

theorem resolve_protocols (settings : Settings) (protocols ports : List String) :
    ((protocolRules settings).resolve (Chain.read protocols) ports.head?).1 =
      ⟨(protocolRules settings).isSecure (Chain.read protocols),
        Int.ofNat ((ports.head?.bind claimedPort?).getD
          (impliedPort settings ((protocolRules settings).isSecure (Chain.read protocols))))⟩ := by
  cases first : ports.head? with
  | none => rw [resolve_eq]; rfl
  | some port =>
      rw [Option.bind_some, ← toOption_readPort]
      cases outcome : readPort port with
      | ok number =>
          simp only [ProtocolRules.resolve, outcome]
          rfl
      | error failure =>
          simp only [ProtocolRules.resolve, outcome, impliedPort, Except.toOption,
            Option.getD_none]
          cases (protocolRules settings).isSecure (Chain.read protocols) <;> rfl

/-- All three claims at once. -/
theorem separateClaimsOf_eq (spoken : protocols ≠ [])
    (accepted : HostClaim.read claim = .ok host) :
    separateClaimsOf settings protocols ports (claim :: others) =
      let secure := (protocolRules settings).isSecure (Chain.read protocols)
      ⟨some secure, some host.serverName,
        some (Int.ofNat (countedPort settings secure ports host))⟩ := by
  have filled : ¬ protocols.isEmpty = true := by simpa using spoken
  have read : (HostClaim.resolve claim).1 = some host := by
    rw [resolve_fst, accepted]
    rfl
  rw [separateClaimsOf, List.head?_cons]
  simp only [read, protocolClaimsOf, if_neg filled, resolve_protocols, ServerClaims.addProtocol,
    ServerClaims.addHost, countedPort]
  cases host.port <;> rfl

end Claims

/-! ### What an application sees -/

/-- The scheme of a kind of requests. -/
def schemeOf (kind : String) (secure : Bool) : String :=
  if kind = "websocket" then if secure then "wss" else "ws"
  else if secure then "https" else "http"

/-- A request with at least one protocol header, some port headers, and a first host header that
can be read. -/
structure ClaimsServer (settings : Settings) (request : Request) (protocols ports : List String)
    (host : HostClaim) : Prop where
  spoken : protocols ≠ []
  found : ∃ headers, request.headers = some headers ∧
    namedValues headers settings.protocolHeader = .ok protocols ∧
    namedValues headers settings.portHeader = .ok ports ∧
    ∃ claim others, namedValues headers settings.hostHeader = .ok (claim :: others) ∧
      HostClaim.read claim = .ok host

section Seen

variable {settings : Settings} {request : Request} {protocols ports : List String}
  {host : HostClaim}

theorem ClaimsServer.ensureState (claims : ClaimsServer settings request protocols ports host) :
    ClaimsServer settings request.ensureState protocols ports host := by
  refine ⟨claims.spoken, ?_⟩
  rw [ensureState_eq]
  exact claims.found

/-- A host that is claimed comes from the wire, and its port is a port number. -/
theorem ClaimsServer.host_sound (claims : ClaimsServer settings request protocols ports host) :
    (IsLiteralName host.serverName ∧ IsLatin host.serverName) ∧
      ∀ port, host.port = some port → port ≤ maxPort := by
  obtain ⟨-, headers, -, -, -, claim, others, found, accepted⟩ := claims
  have latin : IsLatin claim := isLatin_of_mem_namedValues found List.mem_cons_self
  exact ServerClaims.IsSound.host_of_read latin accepted

/-- Such a request resolves to overrides with all three claims. -/
theorem resolution_of_claimsServer (separate : settings.standardHeaderOnly = false)
    (names : HasLatinNames settings) (claims : ClaimsServer settings request protocols ports host)
    (lookup : Lookup) {peer : String} (peerLatin : IsLatin peer) (world : World) :
    let secure := (protocolRules settings).isSecure (Chain.read protocols)
    ∃ overrides resolved,
      (resolve settings lookup request peer).run world = (.ok overrides, resolved) ∧
      (∀ update ∈ overrides.headers, IsWritable update) ∧
      overrides.secure = some secure ∧ overrides.serverName = some host.serverName ∧
      overrides.serverPort = some (Int.ofNat (countedPort settings secure ports host)) := by
  intro secure
  obtain ⟨spoken, headers, listed, protocolsFound, portsFound, claim, others, hostsFound,
    accepted⟩ := claims
  obtain ⟨values, found⟩ := exists_headerValues headers names.chainHeader
  obtain ⟨hosted, ran, -⟩ := @resolve_separate settings lookup request peer headers values
    separate ⟨listed, found⟩ world
  obtain ⟨resolved, claimed⟩ := separateClaims_run protocolsFound portsFound hostsFound hosted
  rw [claimed, separateClaimsOf_eq spoken accepted] at ran
  have latin : ∀ value ∈ values, IsLatin value :=
    fun _ member => isLatin_of_mem_headerValues found member
  have writable := isWritable_headerUpdates names latin peerLatin
  rw [headerUpdates, if_neg (by simp [separate])] at writable
  exact ⟨_, resolved, ran, writable, rfl, rfl, rfl⟩

end Seen

/-- In the dialect of separate headers, a request from a known proxy with a protocol header and a
readable host claim is secure exactly if all entries of all protocol headers, and at least one,
name the secure value; its server name is that of the first host claim, and its port that of this
claim, or else the one in the first port header, or else the one that goes with the scheme. -/
theorem separate_precedence (settings : Settings) (lookup : Lookup) (application : Application)
    (request : Request) (peer : Endpoint) (world : World) (kind : String)
    (protocols ports : List String) (host : HostClaim)
    (separate : settings.standardHeaderOnly = false) (names : HasLatinNames settings)
    (handled : request.kind = some kind) (known : isHandledKind kind = true)
    (proxied : IsProxied settings request peer) (peerLatin : IsLatin peer.host)
    (claims : ClaimsServer settings request protocols ports host) :
    let prepared := prepare settings lookup request world
    (request.state ≠ .null → prepared.fault = none) ∧
      (prepared.fault = none →
        handle settings lookup application request world =
          finish prepared.view (application prepared.request prepared.world) ∧
        ∃ secure port, (secure = true ↔ IsSecuredBy settings protocols) ∧
          port = countedPort settings secure ports host ∧ port ≤ maxPort ∧
          prepared.request.scheme = some (schemeOf kind secure) ∧
          prepared.request.serverNameAndPort =
            .ok (some host.serverName, some (Int.ofNat port))) := by
  intro prepared
  obtain ⟨⟨isName, nameLatin⟩, bounded⟩ := claims.host_sound
  obtain ⟨overrides, resolved, resolution, writable, secured, named, priced⟩ :=
    resolution_of_claimsServer separate names claims.ensureState lookup peerLatin world
  refine ⟨fun present => ?reached, fun reached => ?seen⟩
  case reached =>
    obtain ⟨-, headers, listed, -⟩ := claims.ensureState
    have ensuredPresent : request.ensureState.state ≠ .null := by
      rw [ensureState_state present]
      exact Slot.value_ne_null _
    exact (reached_iff_accepts proxied resolution).mpr (ForwardedView.exists_accepts listed
      ensuredPresent names.managed writable
      (fun name same => Option.some.inj (named.symm.trans same) ▸ nameLatin)
      (fun unnamed => nomatch named.symm.trans unnamed))
  case seen =>
    refine ⟨handle_of_reached handled known reached, _, _, isSecure_iff settings protocols, rfl,
      countedPort_le settings _ ports bounded, ?_⟩
    obtain ⟨headers, written, accepts⟩ := (reached_iff_accepts proxied resolution).mp reached
    obtain ⟨_, published, _, -, preparation⟩ := prepare_of_accepts proxied resolution accepts
    have server := ForwardedView.serverNameAndPort_of_claimed accepts named isName priced
      (countedPort_le settings _ ports bounded)
    have scheme : (request.ensureState.withScheme overrides.secure).scheme =
        some (schemeOf kind ((protocolRules settings).isSecure (Chain.read protocols))) := by
      rw [secured, ensureState_eq, withScheme, schemeFor, handled, schemeOf]
      simp only [Option.some.injEq]
    show (prepare settings lookup request world).request.scheme = _ ∧
      (prepare settings lookup request world).request.serverNameAndPort = _
    rw [preparation]
    exact ⟨scheme, server⟩

/-- A web socket whose proxies withhold the port of the host but send another. -/
def claimingRequest : Request :=
  { kind := some "websocket"
    headers := some
      [⟨onWire "x-forwarded-for", onWire "203.0.113.7"⟩,
        ⟨onWire "x-forwarded-proto", onWire "HTTPS ,https"⟩,
        ⟨onWire "x-forwarded-port", onWire " 8443"⟩,
        ⟨onWire "x-forwarded-host", onWire "[2001:db8::1]:_edge"⟩,
        ⟨onWire "x-forwarded-port", onWire "8080"⟩,
        ⟨onWire "x-forwarded-proto", onWire "https"⟩]
    client := .value edgePeer }

theorem claimsServer_claimingRequest :
    ClaimsServer claimSettings claimingRequest ["HTTPS ,https", "https"] [" 8443", "8080"]
      ⟨"[2001:db8::1]", none⟩ := by
  refine ⟨by simp, _, rfl, ?_, ?_, "[2001:db8::1]:_edge", [], ?_, ?_⟩ <;>
    decide +kernel

theorem claimingRequest_precedence :
    (prepare claimSettings nowhere claimingRequest {}).fault = none ∧
      (prepare claimSettings nowhere claimingRequest {}).request.scheme = some "wss" ∧
      (prepare claimSettings nowhere claimingRequest {}).request.serverNameAndPort =
        .ok (some "[2001:db8::1]", some 8443) := by
  obtain ⟨reaches, sees⟩ := separate_precedence claimSettings nowhere (run nowhere [])
    claimingRequest edgePeer {} "websocket" _ _ _ rfl hasLatinNames_claimSettings rfl rfl
    ⟨rfl, by decide +kernel⟩ (by decide) claimsServer_claimingRequest
  have reached := reaches (by simp [claimingRequest])
  obtain ⟨-, secure, port, secured, counted, -, scheme, server⟩ := sees reached
  have isSecured : secure = true := by
    -- One side is lowered first: deciding whether two lowered texts are equal is slow.
    have small : lower claimSettings.secureValue = "https" := by decide +kernel
    rw [secured, IsSecuredBy, small]
    exact ⟨by decide +kernel, by decide +kernel⟩
  subst isSecured
  have isPort : port = 8443 := counted.trans (by decide +kernel)
  subst isPort
  exact ⟨reached, scheme, server⟩

end ForwardedClient.Middleware
