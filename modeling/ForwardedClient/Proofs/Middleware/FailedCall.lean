import ForwardedClient.Proofs.Middleware.Resolution
import ForwardedClient.Proofs.Middleware.Restoration
import ForwardedClient.Proofs.Request.Refusal
import ForwardedClient.Proofs.Text.Latin
import ForwardedClient.Proofs.Trust.Walk

/-!
Contract: what a call leaves of a request if it fails before its application runs.

Owns: the two ways in which that happens, before and after the snapshot was taken, and the exact
condition under which the request is left as it was.

Does not own: calls that reach their application. Nobody takes a view off that could not be
entered, although its snapshot is there, so that the condition is not always met.
-/

namespace ForwardedClient.Middleware

open ForwardedClient.Data
open ForwardedClient.Forwarded
open ForwardedClient.Journal
open ForwardedClient.Request
open ForwardedClient.Text
open ForwardedClient.Trust

section Failed

variable {settings : Settings} {lookup : Lookup} {request : Request} {peer : Endpoint}
  {world : World} {fault : Fault}

/-- A view that could not be entered is what the preparation ends with. -/
theorem prepare_of_halted {overrides : Overrides} {resolved : World} {view : ForwardedView}
    {halted : Request} (proxied : IsProxied settings request peer)
    (resolution : (resolve settings lookup request.ensureState peer.host).run world =
      (.ok overrides, resolved))
    (entered : (initialView settings).enter overrides request.ensureState =
      ⟨view, halted, some fault⟩) :
    prepare settings lookup request world = ⟨view, halted, resolved, some fault⟩ := by
  rw [prepare_eq, approach_eq proxied, resolution]
  simp only [applyOverrides, entered, Prepared.andThen, Option.isNone_some, Bool.false_eq_true,
    if_false]

/-- A preparation whose overrides cannot be put on ends before the snapshot is taken, on a request
that has only been given a state, or after it, on one that some of the overrides were put on. -/
theorem prepare_of_resolved {overrides : Overrides} {resolved : World}
    (present : request.state ≠ .null) (proxied : IsProxied settings request peer)
    (resolution : (resolve settings lookup request.ensureState peer.host).run world =
      (.ok overrides, resolved))
    (failed : (prepare settings lookup request world).fault = some fault) :
    ((prepare settings lookup request world).request = request.ensureState ∧
        (prepare settings lookup request world).view.snapshot = none) ∨
      ∃ headers snapshot,
        request.headers = some headers ∧ snapshot.Holds request ∧
        (prepare settings lookup request world).view.snapshot = some snapshot ∧
        (prepare settings lookup request world).request =
          haltedRequest overrides request.ensureState headers := by
  have ensured : request.ensureState.state ≠ .null := by
    rw [ensureState_state present]
    rintro ⟨⟩
  cases refused : ((initialView settings).enter overrides request.ensureState).fault with
  | none =>
      obtain ⟨headers, written, accepts⟩ := ForwardedView.accepts_of_enter refused
      obtain ⟨_, _, _, -, preparation⟩ := prepare_of_accepts proxied resolution accepts
      rw [preparation] at failed
      cases failed
  | some cause =>
      rcases ForwardedView.enter_of_refused ensured refused with
        entered | ⟨headers, snapshot, listed, holds, entered⟩
      · left
        rw [prepare_of_halted proxied resolution entered]
        exact ⟨rfl, rfl⟩
      · right
        rw [ensureState_eq] at listed
        rw [prepare_of_halted proxied resolution entered]
        exact ⟨headers, snapshot, listed, holds.of_ensureState, rfl, rfl⟩

/-- A preparation fails without a snapshot on a request that has only been given a state, or with
one on a request that some of its overrides were put on. -/
theorem prepare_of_fault (present : request.state ≠ .null)
    (failed : (prepare settings lookup request world).fault = some fault) :
    ((prepare settings lookup request world).request = request.ensureState ∧
        (prepare settings lookup request world).view.snapshot = none) ∨
      ∃ peer overrides resolved headers snapshot,
        IsProxied settings request peer ∧
        (resolve settings lookup request.ensureState peer.host).run world =
          (.ok overrides, resolved) ∧
        request.headers = some headers ∧ snapshot.Holds request ∧
        (prepare settings lookup request world).view.snapshot = some snapshot ∧
        (prepare settings lookup request world).request =
          haltedRequest overrides request.ensureState headers := by
  rcases isProxied_or_isDirect settings request with ⟨peer, proxied⟩ | direct
  · cases outcome : (resolve settings lookup request.ensureState peer.host).run world with
    | mk resolution resolved =>
        cases resolution with
        | error cause =>
            left
            rw [prepare_eq, approach_eq proxied, outcome]
            exact ⟨rfl, rfl⟩
        | ok overrides =>
            rcases prepare_of_resolved present proxied outcome failed with
              untaken | ⟨headers, snapshot, taken⟩
            · exact Or.inl untaken
            · exact Or.inr ⟨peer, overrides, resolved, headers, snapshot, proxied, outcome, taken⟩
  · left
    cases listed : request.headers with
    | some headers =>
        obtain ⟨_, _, preparation⟩ := prepare_of_isDirect direct listed present lookup world
        rw [preparation] at failed
        cases failed
    | none =>
        obtain ⟨_, preparation⟩ := prepare_of_isDirect_of_unlisted direct listed lookup world
        rw [preparation]
        exact ⟨rfl, rfl⟩

/-- Overrides that change nothing of what a snapshot holds: they name no client, keep the scheme
and write no header that is not there already. -/
structure IsIdle (overrides : Overrides) (request : Request) (headers : List Header) : Prop where
  client : overrides.remoteAddress = none
  scheme : (request.withScheme overrides.secure).scheme = request.scheme
  headers : (Headers.assignAll headers overrides.headers).1 = headers

theorem scheme_withScheme_ensureState (request : Request) (secure : Option Bool) :
    (request.ensureState.withScheme secure).scheme = (request.withScheme secure).scheme := by
  rw [ensureState_eq]
  cases secure <;> rfl

/-- The client of a walk is never the peer, which is a known proxy. -/
theorem client_ne_peer (proxied : IsProxied settings request peer) {overrides : Overrides}
    {resolved : World}
    (resolution : (resolve settings lookup request.ensureState peer.host).run world =
      (.ok overrides, resolved)) {client : String}
    (named : overrides.remoteAddress = some client) : client ≠ peer.host := by
  obtain ⟨headers, values, claims, carries, same⟩ := overrides_of_resolve resolution
  rw [same] at named
  have stopped : (walk settings.rules (readChain settings values) peer.host).client =
      some client := named
  have stranger := not_isProxy_of_client stopped
  intro equal
  rw [equal, proxied.known] at stranger
  exact nomatch stranger

/-- A request is left as it was exactly by overrides that are idle. -/
theorem isUntouched_haltedRequest_iff {overrides : Overrides} {resolved : World}
    {headers : List Header} (present : request.state ≠ .null)
    (proxied : IsProxied settings request peer)
    (resolution : (resolve settings lookup request.ensureState peer.host).run world =
      (.ok overrides, resolved)) (listed : request.headers = some headers) :
    IsUntouched request (haltedRequest overrides request.ensureState headers) ↔
      IsIdle overrides request headers := by
  have scheme := scheme_withScheme_ensureState request overrides.secure
  constructor
  · intro untouched
    refine ⟨?_, scheme.symm.trans untouched.scheme, ?_⟩
    · cases named : overrides.remoteAddress with
      | none => rfl
      | some client =>
          have shown : (request.ensureState.withClient overrides.remoteAddress).client =
              request.client := untouched.client
          rw [named, withClient, proxied.client] at shown
          injection shown with shown
          exact absurd (congrArg Endpoint.host shown) (client_ne_peer proxied resolution named)
    · have written : some (Headers.assignAll headers overrides.headers).1 = request.headers :=
        untouched.headers
      rw [listed] at written
      exact Option.some.inj written
  · intro idle
    -- The host name comes with the client, so that without a client there is none.
    obtain ⟨_, values, claims, -, same⟩ := overrides_of_resolve resolution
    have unnamed : overrides.remoteHost = none := by
      have walked := idle.client
      rw [same] at walked ⊢
      simp only [overridesOf] at walked ⊢
      rw [walked, Option.map_none]
    refine ⟨?_, scheme.trans idle.scheme, ?_, ?_, ?_⟩
    · show (request.ensureState.withClient overrides.remoteAddress).client = _
      rw [idle.client, withClient, ensureState_client]
    · show request.ensureState.server = _
      rw [ensureState_eq]
    · show some (Headers.assignAll headers overrides.headers).1 = _
      rw [idle.headers, listed]
    · rw [stateEntry?_eq present]
      show Except.ok ((overrides.nameHost request.ensureState.stateFields).find? remoteHostKey) = _
      rw [Overrides.nameHost, unnamed, stateFields_ensureState]

/-- Peer, overrides and headers are those of the request, whoever names them. -/
theorem exists_isIdle_iff {overrides : Overrides} {resolved : World} {headers : List Header}
    (proxied : IsProxied settings request peer)
    (resolution : (resolve settings lookup request.ensureState peer.host).run world =
      (.ok overrides, resolved)) (listed : request.headers = some headers) :
    (∃ peer overrides headers, IsProxied settings request peer ∧
        ((resolve settings lookup request.ensureState peer.host).run world).1 = .ok overrides ∧
        request.headers = some headers ∧ IsIdle overrides request headers) ↔
      IsIdle overrides request headers := by
  constructor
  · rintro ⟨other, others, list, proxiedOther, resolutionOther, listedOther, idle⟩
    rw [proxied.unique proxiedOther, resolution] at resolutionOther
    have sameOverrides : overrides = others := Except.ok.inj resolutionOther
    have sameHeaders : headers = list := Option.some.inj (listed.symm.trans listedOther)
    rw [sameOverrides, sameHeaders]
    exact idle
  · intro idle
    exact ⟨peer, overrides, headers, proxied, by rw [resolution], listed, idle⟩

end Failed

/-- When a call that fails before its application leaves the request as it was. Such a call ends
the same whatever the application would do. The request keeps its client, scheme, server, headers
and remote host exactly if no snapshot had been taken of it or if the overrides were idle; and if
a snapshot had been taken, writing it back would restore the request. -/
theorem failed_call_keeps_request_iff (settings : Settings) (lookup : Lookup)
    (application : Application) (request : Request) (world : World) (kind : String)
    (handled : request.kind = some kind) (known : isHandledKind kind = true)
    (present : request.state ≠ .null) (fault : Fault)
    (failed : (prepare settings lookup request world).fault = some fault) :
    let snapshot? := (prepare settings lookup request world).view.snapshot
    let after := handle settings lookup application request world
    after.failure = some (.request fault) ∧
      after.world = (prepare settings lookup request world).world ∧
      (IsUntouched request after.held.request ↔
        snapshot? = none ∨
          ∃ peer overrides headers, IsProxied settings request peer ∧
            ((resolve settings lookup request.ensureState peer.host).run world).1 =
              .ok overrides ∧
            request.headers = some headers ∧ IsIdle overrides request headers) ∧
      ∀ snapshot, snapshot? = some snapshot →
        ∃ restored, snapshot.restore after.held.request = (restored, none) ∧
          IsRestored request restored := by
  intro snapshot? after
  have ended : after = ⟨⟨(prepare settings lookup request world).request, none⟩,
      (prepare settings lookup request world).world, some (.request fault)⟩ := by
    simp only [after, handle, handled, known, if_true, handleRequest, failed]
  rw [ended]
  refine ⟨rfl, rfl, ?_⟩
  rcases prepare_of_fault present failed with ⟨left, untaken⟩ |
    ⟨peer, overrides, resolved, headers, snapshot, proxied, resolution, listed, holds, taken, left⟩
  · refine ⟨⟨fun _ => Or.inl untaken, fun _ => ?_⟩, fun snapshot same => ?_⟩
    · rw [left]
      exact isUntouched_ensureState present
    · exact absurd (untaken.symm.trans same) (Option.some_ne_none snapshot).symm
  · have leftPresent : (prepare settings lookup request world).request.state ≠ .null := by
      rw [left]
      rintro ⟨⟩
    refine ⟨?_, fun other same => ?_⟩
    · rw [left, isUntouched_haltedRequest_iff present proxied resolution listed,
        exists_isIdle_iff proxied resolution listed]
      have isTaken : (prepare settings lookup request world).view.snapshot ≠ none := by
        rw [taken]
        exact Option.some_ne_none snapshot
      exact ⟨Or.inr, fun either => either.resolve_left isTaken⟩
    · have same : snapshot = other := Option.some.inj (taken.symm.trans same)
      rw [same] at holds
      obtain ⟨restored, restores, isRestored, -⟩ := restored_of_holds holds present leftPresent
      exact ⟨restored, restores, isRestored⟩

/-- Settings under which the protocol is looked for in a header that no wire can carry. -/
def unnamedSettings : Settings := { edgeSettings with protocolHeader := some "X-Š" }

/-- A call that cannot look for its claims fails before there is anything to undo. -/
theorem failed_call_keeps_unresolved_request :
    (handle unnamedSettings nowhere (run nowhere []) edgeRequest {}).failure.isSome = true ∧
      IsUntouched edgeRequest
        (handle unnamedSettings nowhere (run nowhere []) edgeRequest {}).held.request := by
  have fails : (prepare unnamedSettings nowhere edgeRequest {}).fault.isSome = true := by
    decide +kernel
  have untaken : (prepare unnamedSettings nowhere edgeRequest {}).view.snapshot.isNone = true := by
    decide +kernel
  obtain ⟨fault, failed⟩ := Option.isSome_iff_exists.mp fails
  have ending := failed_call_keeps_request_iff unnamedSettings nowhere (run nowhere []) edgeRequest
    {} "http" rfl rfl (by simp [edgeRequest]) fault failed
  exact ⟨by rw [ending.1]; rfl,
    ending.2.2.1.mpr (Or.inl (Option.isNone_iff_eq_none.mp untaken))⟩

/-- Settings under which proxies claim a protocol. -/
def protocolSettings : Settings := { edgeSettings with protocolHeader := some "X-Forwarded-Proto" }

/-- A request without a host header, to a server at a socket whose path is no text of bytes. -/
def socketRequest : Request :=
  { kind := some "http"
    scheme := some "http"
    headers := some
      [⟨onWire "x-forwarded-for", onWire "198.51.100.7"⟩,
        ⟨onWire "x-forwarded-proto", onWire "https"⟩]
    client := .value edgePeer
    server := .value ⟨"/run/сервер.sock", none⟩
    state := .value [] }

/-- A call that fails at the host header leaves the client, the scheme, the headers and the remote
host of the overrides behind. -/
theorem failed_call_moves_request :
    let after := handle protocolSettings nowhere (run nowhere []) socketRequest {}
    ((prepare protocolSettings nowhere socketRequest {}).fault.isSome = true ∧
      after.failure.isSome = true ∧ after.world.events.isEmpty = true ∧
      after.held.request.client = .value ⟨"198.51.100.7", some 4000⟩ ∧
      after.held.request.scheme = some "https" ∧
      after.held.request.headers =
        some [⟨onWire "x-forwarded-proto", onWire "https"⟩] ∧
      (after.held.request.stateFields.find? remoteHostKey).isSome = true) ∧
      ¬ IsUntouched socketRequest after.held.request := by
  intro after
  have left : (prepare protocolSettings nowhere socketRequest {}).fault.isSome = true ∧
      after.failure.isSome = true ∧ after.world.events.isEmpty = true ∧
      after.held.request.client = .value ⟨"198.51.100.7", some 4000⟩ ∧
      after.held.request.scheme = some "https" ∧
      after.held.request.headers =
        some [⟨onWire "x-forwarded-proto", onWire "https"⟩] ∧
      (after.held.request.stateFields.find? remoteHostKey).isSome = true := by
    decide +kernel
  refine ⟨left, fun untouched => ?_⟩
  have scheme : some "https" = some "http" := left.2.2.2.2.1.symm.trans untouched.scheme
  exact absurd scheme (by decide)

end ForwardedClient.Middleware
