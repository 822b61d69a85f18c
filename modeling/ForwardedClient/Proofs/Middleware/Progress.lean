import ForwardedClient.Proofs.Chain.CommaList
import ForwardedClient.Proofs.Middleware.Restoration
import ForwardedClient.Proofs.Middleware.SeparateClaims
import ForwardedClient.Proofs.Middleware.ShownServer

/-!
Contract: every request reaches its application.

Owns: the success of resolution and of all that comes before the application, for any header list
whatever, and the only way in which what comes after the application can fail.

Does not own: settings that name headers which no wire can carry, and addresses of the peer or of
the local endpoint that are no texts of bytes.
-/

namespace ForwardedClient.Middleware

open ForwardedClient.Forwarded
open ForwardedClient.Request
open ForwardedClient.Text
open ForwardedClient.Trust

/-- Settings whose header names can stand on the wire. -/
structure HasLatinNames (settings : Settings) : Prop where
  client : IsLatin settings.clientHeader
  proxies : IsLatin settings.proxiesHeader
  protocol : ∀ name, settings.protocolHeader = some name → IsLatin name
  port : ∀ name, settings.portHeader = some name → IsLatin name
  host : ∀ name, settings.hostHeader = some name → IsLatin name

namespace HasLatinNames

variable {settings : Settings}

theorem chainHeader (names : HasLatinNames settings) : IsLatin (chainHeader settings) := by
  unfold Middleware.chainHeader
  split
  · decide
  · exact names.client

theorem managed (names : HasLatinNames settings) :
    ∀ name ∈ (initialView settings).names, IsLatin name := by
  have known : ∀ name ∈ settings.managedHeaders, IsLatin name := by
    unfold Settings.managedHeaders
    split
    · decide
    · simpa using And.intro names.proxies names.client
  exact known

end HasLatinNames

/-! ### Header updates -/

section Updates

variable {settings : Settings} {values : List String} {peer : String}

theorem eq_of_unlessEmpty {value text : String} (kept : unlessEmpty value = some text) :
    text = value := by
  unfold unlessEmpty at kept
  split at kept
  · exact nomatch kept
  · exact (Option.some.inj kept).symm

theorem isWritable_unlessEmpty {name value : String} (nameLatin : IsLatin name)
    (valueLatin : IsLatin value) : IsWritable (name, unlessEmpty value) :=
  ⟨nameLatin, fun _ kept => eq_of_unlessEmpty kept ▸ valueLatin⟩

theorem isLatin_write_chain {chain : List String} (latin : ∀ entry ∈ chain, IsLatin entry) :
    IsLatin (Chain.write chain) :=
  (isLatin_intercalate (by decide)).mpr latin

theorem isWritable_standardUpdates {map : DirectiveMap} {walk : Walk} (wire : map.IsWire)
    (proxies : ∀ address ∈ walk.proxies, IsLatin address)
    (remaining : ∀ address ∈ walk.remaining, IsLatin address) :
    ∀ update ∈ standardUpdates map walk, IsWritable update := by
  intro update member
  have shortened := isWire_shorten wire proxies remaining
  rw [mem_standardUpdates member]
  refine isWritable_unlessEmpty (by decide) ?_
  exact (DirectiveMap.isLatin_write fun entry place => (shortened entry place).1).mpr
    fun entry place => (shortened entry place).2

theorem isWritable_chainUpdates {walk : Walk} (names : HasLatinNames settings)
    (proxies : ∀ address ∈ walk.proxies, IsLatin address)
    (remaining : ∀ address ∈ walk.remaining, IsLatin address) :
    ∀ update ∈ chainUpdates settings walk, IsWritable update := by
  intro update member
  unfold chainUpdates at member
  split at member
  · rcases mem_setUpdate member with crossed | unreached
    · rw [List.mem_singleton.mp crossed]
      exact isWritable_unlessEmpty names.proxies (isLatin_write_chain proxies)
    · rw [unreached]
      exact isWritable_unlessEmpty names.client (isLatin_write_chain remaining)
  · split at member
    · exact absurd member List.not_mem_nil
    · rw [List.mem_singleton.mp member]
      refine ⟨names.proxies, fun text same => ?_⟩
      rw [← Option.some.inj same]
      exact isLatin_write_chain proxies

/-- A walk along a chain of bytes, from a peer whose address is one, writes bytes. -/
theorem isWritable_headerUpdates (names : HasLatinNames settings)
    (latin : ∀ value ∈ values, IsLatin value) (peerLatin : IsLatin peer) :
    ∀ update ∈ headerUpdates settings values (chainWalk settings values peer),
      IsWritable update := by
  have proxies : ∀ address ∈ (chainWalk settings values peer).proxies, IsLatin address :=
    fun _ member => isLatin_of_mem_proxies latin (Or.inr peerLatin) member
  have remaining : ∀ address ∈ (chainWalk settings values peer).remaining, IsLatin address :=
    fun _ member => isLatin_of_mem_remaining latin member
  unfold headerUpdates
  split
  · exact isWritable_standardUpdates (DirectiveMap.isWire_read latin) proxies remaining
  · exact isWritable_chainUpdates names proxies remaining

end Updates

/-! ### Before the application -/

section Reached

variable {settings : Settings} {request : Request} {headers : List Header}

/-- Every header list is resolved, and into overrides that can stand on the wire. -/
theorem exists_resolution (names : HasLatinNames settings)
    (listed : request.headers = some headers) (lookup : Lookup) {peer : String}
    (peerLatin : IsLatin peer) (world : World) :
    ∃ overrides resolved,
      (∀ update ∈ overrides.headers, IsWritable update) ∧
      (∀ name, overrides.serverName = some name → IsLatin name) ∧
      (resolve settings lookup request peer).run world = (.ok overrides, resolved) := by
  obtain ⟨values, found⟩ := exists_headerValues headers names.chainHeader
  have carries : Carries settings request headers values := ⟨listed, found⟩
  have latin : ∀ value ∈ values, IsLatin value :=
    fun _ member => isLatin_of_mem_headerValues found member
  have writable := isWritable_headerUpdates names latin peerLatin
  unfold headerUpdates at writable
  cases dialect : settings.standardHeaderOnly with
  | true =>
      rw [if_pos dialect] at writable
      obtain ⟨resolved, ran, -⟩ := @resolve_standard settings lookup request peer headers values
        dialect carries world
      have sound := isSound_standardClaims settings (DirectiveMap.isWire_read latin)
      exact ⟨_, resolved, writable, fun name claimed => (sound.name name claimed).2, ran⟩
  | false =>
      have separate : ¬ settings.standardHeaderOnly = true := by simp [dialect]
      rw [if_neg separate] at writable
      obtain ⟨protocols, protocolsFound⟩ := exists_namedValues headers names.protocol
      obtain ⟨ports, portsFound⟩ := exists_namedValues headers names.port
      obtain ⟨hosts, hostsFound⟩ := exists_namedValues headers names.host
      obtain ⟨hosted, ran, -⟩ := @resolve_separate settings lookup request peer headers values
        dialect carries world
      obtain ⟨resolved, claimed⟩ := separateClaims_run protocolsFound portsFound hostsFound hosted
      rw [claimed] at ran
      have hostsLatin : ∀ host ∈ hosts, IsLatin host :=
        fun _ member => isLatin_of_mem_namedValues hostsFound member
      exact ⟨_, resolved, writable,
        fun name isName => isLatin_serverName_separateClaimsOf hostsLatin isName, ran⟩

/-- Nothing that stands in its headers keeps a request from its application. -/
theorem prepare_reaches (names : HasLatinNames settings) (listed : request.headers = some headers)
    (present : request.state ≠ .null)
    (client : ∀ peer, request.client = .value peer → IsLatin peer.host)
    (server : ∀ endpoint, request.server = .value endpoint → IsLatin endpoint.host)
    (lookup : Lookup) (world : World) : (prepare settings lookup request world).fault = none := by
  rcases isProxied_or_isDirect settings request with ⟨peer, proxied⟩ | direct
  · have ensuredListed : request.ensureState.headers = some headers := by
      rw [ensureState_eq]
      exact listed
    have ensuredPresent : request.ensureState.state ≠ .null := by
      rw [ensureState_state present]
      exact Slot.value_ne_null _
    have ensuredServer : ∀ endpoint, request.ensureState.server = .value endpoint →
        IsLatin endpoint.host := by
      rw [ensureState_eq]
      exact server
    obtain ⟨overrides, resolved, writable, serverName, resolution⟩ :=
      exists_resolution names ensuredListed lookup (client peer proxied.client) world
    exact (reached_iff_accepts proxied resolution).mpr (ForwardedView.exists_accepts ensuredListed
      ensuredPresent names.managed writable serverName fun _ => ensuredServer)
  · obtain ⟨_, _, preparation⟩ := prepare_of_isDirect direct listed present lookup world
    rw [preparation]

end Reached

/-! ### After the application -/

/-- After its application a call unties the journal and gives the request back. -/
theorem finish_of_present (view : ForwardedView) {outcome : Outcome}
    (present : outcome.held.request.state ≠ .null) :
    ∃ after, finish view outcome =
      ⟨{ outcome.held with request := after }, outcome.world.clearContext, outcome.failure⟩ := by
  have decided : outcome.held.request.isSuspended =
      .ok ((outcome.held.request.stateFields.find? suspendedKey).any Data.Datum.isTruthy) :=
    hasMark_eq present suspendedKey
  cases suspended : (outcome.held.request.stateFields.find? suspendedKey).any
      Data.Datum.isTruthy with
  | true =>
      rw [suspended] at decided
      exact ⟨_, finish_of_suspended decided⟩
  | false =>
      rw [suspended] at decided
      cases kept : view.snapshot with
      | none => exact ⟨_, by simp [finish, decided, ForwardedView.exit, kept]; rfl⟩
      | some snapshot =>
          exact ⟨_, finish_of_ended decided kept (Snapshot.restore_eq snapshot present)⟩

theorem finish_of_null (view : ForwardedView) {outcome : Outcome}
    (null : outcome.held.request.state = .null) :
    finish view outcome = { outcome with failure := some (.request (.nullState .get)) } := by
  have refused : outcome.held.request.isSuspended = .error (.nullState .get) := by
    simp [isSuspended, hasMark, stateEntry?, null, Except.map]
  simp [finish, refused]

/-- A call ends as its application did, unless that left a state of null. -/
theorem finish_failure (view : ForwardedView) {outcome : Outcome}
    (present : outcome.held.request.state ≠ .null) :
    (finish view outcome).failure = outcome.failure := by
  obtain ⟨_, ended⟩ := finish_of_present view present
  rw [ended]

theorem finish_failure_of_null (view : ForwardedView) {outcome : Outcome}
    (null : outcome.held.request.state = .null) :
    (finish view outcome).failure = some (.request (.nullState .get)) := by
  rw [finish_of_null view null]

/-- No header content can fail a request. Under settings whose header names can stand on the wire,
every request with a header list reaches its application, whatever its headers hold and whether
look-ups find names or fail as a `LookupFailure` says, if the addresses of its peer and of its local
endpoint are texts of bytes. The call then fails as the application did and not otherwise, except
that it also fails if the application leaves a state of null. -/
theorem handle_fails_only_with_application (settings : Settings) (lookup : Lookup)
    (application : Application) (request : Request) (world : World) (kind : String)
    (headers : List Header) (names : HasLatinNames settings) (handled : request.kind = some kind)
    (known : isHandledKind kind = true) (listed : request.headers = some headers)
    (present : request.state ≠ .null)
    (client : ∀ peer, request.client = .value peer → IsLatin peer.host)
    (server : ∀ endpoint, request.server = .value endpoint → IsLatin endpoint.host) :
    let prepared := prepare settings lookup request world
    let left := application prepared.request prepared.world
    let after := handle settings lookup application request world
    prepared.fault = none ∧ after = finish prepared.view left ∧
      (left.held.request.state ≠ .null → after.failure = left.failure) ∧
      (left.held.request.state = .null → after.failure = some (.request (.nullState .get))) := by
  intro prepared left after
  have reached : prepared.fault = none :=
    prepare_reaches names listed present client server lookup world
  have called : after = finish prepared.view left := handle_of_reached handled known reached
  refine ⟨reached, called, ?_, ?_⟩
  · intro leftPresent
    rw [called]
    exact finish_failure prepared.view leftPresent
  · intro null
    rw [called]
    exact finish_failure_of_null prepared.view null

/-- Settings under which every kind of claim is looked for. -/
def claimSettings : Settings :=
  { edgeSettings with
    protocolHeader := some "X-Forwarded-Proto"
    portHeader := some "X-Forwarded-Port"
    hostHeader := some "X-Forwarded-Host" }

/-- A request none of whose headers can be read. -/
def garbledRequest : Request :=
  { kind := some "websocket"
    headers := some
      [⟨onWire "x-forwarded-for", onWire ",\u00a0[::g, \"\u00ff=;"⟩,
        ⟨hostHeader, onWire "[fe80::1%"⟩,
        ⟨onWire "x-forwarded-host", onWire "a..b:_"⟩,
        ⟨onWire "x-forwarded-proto", onWire ""⟩,
        ⟨onWire "x-forwarded-port", onWire "99999"⟩,
        ⟨onWire "x-forwarded-host", onWire ":::"⟩]
    client := .value edgePeer }

theorem hasLatinNames_claimSettings : HasLatinNames claimSettings where
  client := by decide
  proxies := by decide
  protocol := by
    intro name same
    rw [← Option.some.inj same]
    decide
  port := by
    intro name same
    rw [← Option.some.inj same]
    decide
  host := by
    intro name same
    rw [← Option.some.inj same]
    decide

theorem garbledRequest_reaches_application :
    (prepare claimSettings nowhere garbledRequest {}).fault = none ∧
      (handle claimSettings nowhere (run nowhere [.ask]) garbledRequest {}).failure.isNone =
        true := by
  have leftPresent : (run nowhere [.ask] (prepare claimSettings nowhere garbledRequest {}).request
      (prepare claimSettings nowhere garbledRequest {}).world).held.request.state ≠ .null := by
    intro null
    have absent := congrArg (fun state => state.get?.isSome) null
    exact absurd absent (by decide +kernel)
  have client : ∀ peer, garbledRequest.client = .value peer → IsLatin peer.host := by
    intro peer same
    have isPeer : edgePeer = peer := by injection same
    rw [← isPeer]
    decide
  have server : ∀ endpoint, garbledRequest.server = .value endpoint → IsLatin endpoint.host :=
    fun endpoint same => nomatch same
  obtain ⟨reached, -, ended, -⟩ := handle_fails_only_with_application claimSettings nowhere
    (run nowhere [.ask]) garbledRequest {} "websocket" _ hasLatinNames_claimSettings rfl rfl rfl
    (by simp [garbledRequest]) client server
  refine ⟨reached, ?_⟩
  rw [ended leftPresent]
  decide +kernel

/-- A request that came without a proxy. -/
def directRequest : Request :=
  { kind := some "http"
    scheme := some "http"
    headers := some [⟨hostHeader, onWire "localhost"⟩]
    client := .value ⟨"203.0.113.9", some 4000⟩
    server := .value ⟨"127.0.0.1", some 8080⟩ }

/-- An application that returns, but takes the state from its request, makes the call fail. -/
theorem missing_state_fails_call :
    let application := run nowhere [.put [.state .null]]
    let prepared := prepare claimSettings nowhere directRequest {}
    HasLatinNames claimSettings ∧ directRequest.state.isMissing = true ∧
      prepared.fault = none ∧
      (application prepared.request prepared.world).failure.isNone = true ∧
      (handle claimSettings nowhere application directRequest {}).failure.isSome = true := by
  refine ⟨hasLatinNames_claimSettings, rfl, ?_, ?_, ?_⟩ <;> decide +kernel

end ForwardedClient.Middleware
