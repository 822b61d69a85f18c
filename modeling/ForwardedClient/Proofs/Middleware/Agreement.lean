import ForwardedClient.Proofs.Middleware.Preparation
import ForwardedClient.Proofs.Middleware.Updates
import ForwardedClient.Proofs.Request.Encoding
import ForwardedClient.Proofs.Request.ServerName

/-!
Contract: two calls that show their applications the same.

Owns: the agreement of two requests, and of what two calls hold, up to headers that are not the
host header; the overrides that keep it, which may differ in the values of other headers; and how
the stages of a preparation keep it.

Does not own: how two calls come to the same overrides.
-/

namespace ForwardedClient.Middleware

open ForwardedClient.Request
open ForwardedClient.Text

/-! ### Requests -/

/-- Two requests that differ in nothing but their headers, and not in their host headers. -/
def IsAlike (left right : Request) : Prop :=
  ∃ headers others, left = { right with headers := some headers } ∧
    right.headers = some others ∧
    Headers.values headers hostHeader = Headers.values others hostHeader

theorem nameAndPort_of_values {headers others : List Header}
    (hosts : Headers.values headers hostHeader = Headers.values others hostHeader) (secure : Bool)
    (server : Slot Endpoint) :
    nameAndPort secure headers server = nameAndPort secure others server := by
  rw [nameAndPort_eq, nameAndPort_eq, Headers.first?_eq, Headers.first?_eq, hosts]

/-- The same overrides, up to headers, call for the same host header. -/
theorem hostHeader?_of_values {overrides called : Overrides} {headers others : List Header}
    (same : overrides = { called with headers := overrides.headers })
    (hosts : Headers.values headers hostHeader = Headers.values others hostHeader) (secure : Bool)
    (server : Slot Endpoint) :
    overrides.hostHeader? secure (nameAndPort secure headers server) =
      called.hostHeader? secure (nameAndPort secure others server) := by
  rw [same, nameAndPort_of_values hosts]
  rfl

theorem values_writeHost_of_values {headers others written rewritten : List Header}
    {host called : Option String} (same : host = called)
    (hosts : Headers.values headers hostHeader = Headers.values others hostHeader)
    (hosted : Headers.writeHost headers host = .ok written)
    (rehosted : Headers.writeHost others called = .ok rewritten) :
    Headers.values written hostHeader = Headers.values rewritten hostHeader := by
  rw [values_writeHost hosted, values_writeHost rehosted, same, hosts]

/-- Alike requests show the same server name and port. -/
theorem IsAlike.serverNameAndPort {left right : Request} (alike : IsAlike left right) :
    left.serverNameAndPort = right.serverNameAndPort := by
  obtain ⟨headers, others, rfl, listed, hosts⟩ := alike
  have ownListed : ({ right with headers := some headers } : Request).headers = some headers := rfl
  rw [serverNameAndPort_eq ownListed, serverNameAndPort_eq listed]
  exact congrArg Except.ok (nameAndPort_of_values hosts _ _)

theorem IsAlike.shown_eq {left right : Request} (alike : IsAlike left right) :
    left.client = right.client ∧ left.scheme = right.scheme ∧ left.state = right.state := by
  obtain ⟨headers, others, rfl, -, -⟩ := alike
  exact ⟨rfl, rfl, rfl⟩

theorem IsAlike.attributes_eq {left right : Request} (alike : IsAlike left right) :
    attributes left = attributes right := by
  obtain ⟨headers, others, rfl, -, -⟩ := alike
  rfl

theorem IsAlike.withState {left right : Request} (alike : IsAlike left right)
    (state : Slot Data.Fields) : IsAlike { left with state } { right with state } := by
  obtain ⟨headers, others, rfl, listed, hosts⟩ := alike
  exact ⟨headers, others, rfl, listed, hosts⟩

/-- Alike requests are alike once they have a state. -/
theorem IsAlike.ensureState {left right : Request} (alike : IsAlike left right) :
    IsAlike left.ensureState right.ensureState := by
  obtain ⟨headers, others, rfl, listed, hosts⟩ := alike
  refine ⟨headers, others, ?_, ?_, hosts⟩
  · unfold Request.ensureState
    cases right.state.isMissing <;> rfl
  · rw [ensureState_eq]
    exact listed

section Entered

variable {left right : Request} {view other : ForwardedView} {overrides called : Overrides}
  {headers others written found : List Header}

/-- Two views that are entered with the same overrides, up to headers that are not the host header,
turn alike requests into alike ones. -/
theorem IsAlike.enteredRequest (alike : IsAlike left right)
    (same : overrides = { called with headers := overrides.headers })
    (names : view.changesLocalName = other.changesLocalName)
    (ports : view.changesLocalPort = other.changesLocalPort)
    (unmanaged : ∀ update ∈ overrides.headers ++ called.headers,
      headerName update.1 ≠ .ok hostHeader)
    (accepts : view.Accepts overrides left headers written)
    (calledAccepts : other.Accepts called right others found) :
    IsAlike (view.enteredRequest overrides left written)
      (other.enteredRequest called right found) := by
  obtain ⟨leftHeaders, rightHeaders, rfl, listed, hosts⟩ := alike
  obtain ⟨changed, assigned, hosted⟩ := accepts.assigned
  obtain ⟨edited, edits, rehosted⟩ := calledAccepts.assigned
  have ownHeaders : headers = leftHeaders := (Option.some.inj accepts.listed).symm
  have otherHeaders : others = rightHeaders :=
    Option.some.inj (calledAccepts.listed.symm.trans listed)
  subst ownHeaders otherHeaders
  refine ⟨written, found, ?request, rfl, ?hosts⟩
  case request =>
    rw [same]
    unfold ForwardedView.enteredRequest ForwardedView.localEnd
    rw [names, ports]
    cases address : called.remoteAddress <;> cases secured : called.secure <;>
      simp only [withClient, withScheme] <;> rfl
  case hosts =>
    have kept : Headers.values changed hostHeader = Headers.values edited hostHeader := by
      rw [Headers.values_assignAll_of_ne
          (fun update member => unmanaged update (List.mem_append_left _ member)) assigned,
        Headers.values_assignAll_of_ne
          (fun update member => unmanaged update (List.mem_append_right _ member)) edits, hosts]
    exact values_writeHost_of_values (hostHeader?_of_values same hosts _ _) kept hosted rehosted

/-- If all names and updates can stand on the wire, such a view can be entered exactly if the other
can. -/
theorem IsAlike.exists_accepts_iff (alike : IsAlike left right)
    (same : overrides = { called with headers := overrides.headers })
    (names : ∀ name ∈ view.names ++ other.names, IsLatin name)
    (writable : ∀ update ∈ overrides.headers ++ called.headers, IsWritable update) :
    (∃ headers written, view.Accepts overrides left headers written) ↔
      ∃ headers written, other.Accepts called right headers written := by
  obtain ⟨headers, others, rfl, listed, hosts⟩ := alike
  have leftListed : ({ right with headers := some headers } : Request).headers = some headers := rfl
  rw [ForwardedView.exists_accepts_iff_host leftListed
      (fun name member => names name (List.mem_append_left _ member))
      (fun update member => writable update (List.mem_append_left _ member)),
    ForwardedView.exists_accepts_iff_host listed
      (fun name member => names name (List.mem_append_right _ member))
      (fun update member => writable update (List.mem_append_right _ member)),
    ← hostHeader?_of_values same hosts right.isSecure right.server]
  rfl

end Entered

/-! ### Overrides -/

/-- Header updates with the same names which can be made alike, on any headers. -/
structure WriteAlike (updates others : List (String × Option String)) : Prop where
  titles : updates.map (·.1) = others.map (·.1)
  assigned : ∀ headers rest,
    (Headers.assignAll headers updates).2 = none ↔ (Headers.assignAll rest others).2 = none

theorem WriteAlike.refl (updates : List (String × Option String)) : WriteAlike updates updates :=
  ⟨rfl, fun headers rest => by rw [Headers.assignAll_snd headers rest]⟩

/-- Overrides that are the same, up to header updates which can be made alike. -/
structure CallAlike (overrides called : Overrides) : Prop where
  same : overrides = { called with headers := overrides.headers }
  headers : WriteAlike overrides.headers called.headers

/-- Such overrides can be put on alike requests alike. -/
theorem IsAlike.exists_accepts_iff_of_callAlike {left right : Request}
    {overrides called : Overrides} (alike : IsAlike left right)
    (calls : CallAlike overrides called) (view : ForwardedView) :
    (∃ headers written, view.Accepts overrides left headers written) ↔
      ∃ headers written, view.Accepts called right headers written := by
  obtain ⟨headers, others, rfl, listed, hosts⟩ := alike
  have leftListed : ({ right with headers := some headers } : Request).headers = some headers := rfl
  rw [← ForwardedView.fault_eq_none_iff_exists_accepts,
    ← ForwardedView.fault_eq_none_iff_exists_accepts,
    ForwardedView.fault_eq_none_iff leftListed, ForwardedView.fault_eq_none_iff listed,
    calls.headers.titles, calls.headers.assigned headers others,
    ← hostHeader?_of_values calls.same hosts right.isSecure right.server]
  rfl

/-! ### Preparations -/

/-- Two calls that show their applications alike requests and the same journal, after the same
look-ups, or that fail alike. -/
structure Agrees (left right : Prepared) : Prop where
  fault : left.fault = right.fault
  request : IsAlike left.request right.request
  context : left.world.context = right.world.context
  lookups : left.world.lookups = right.world.lookups

namespace Agrees

variable {left right : Prepared}

theorem andThen {next other : Prepared → Prepared}
    (continued : ∀ {left right}, Agrees left right → Agrees (next left) (other right))
    (agrees : Agrees left right) : Agrees (left.andThen next) (right.andThen other) := by
  unfold Prepared.andThen
  rw [agrees.fault]
  cases right.fault.isNone with
  | true => exact continued agrees
  | false => exact agrees

theorem publish (agrees : Agrees left right) :
    Agrees (Middleware.publish left) (Middleware.publish right) := by
  obtain ⟨fault, request, context, lookups⟩ := agrees
  have server := request.serverNameAndPort
  obtain ⟨-, -, state⟩ := request.shown_eq
  unfold Middleware.publish
  simp only [server, state, request.attributes_eq]
  cases right.request.serverNameAndPort with
  | error fault => exact ⟨rfl, request, context, lookups⟩
  | ok shown =>
      cases right.request.state with
      | missing => exact ⟨rfl, request, context, lookups⟩
      | null => exact ⟨rfl, request, context, lookups⟩
      | value fields => exact ⟨fault, request.withState _, context, lookups⟩

theorem introduce (agrees : Agrees left right) :
    Agrees (Middleware.introduce left) (Middleware.introduce right) := by
  obtain ⟨fault, request, context, lookups⟩ := agrees
  have server := request.serverNameAndPort
  obtain ⟨client, scheme, -⟩ := request.shown_eq
  unfold Middleware.introduce
  simp only [server]
  cases right.request.serverNameAndPort with
  | error fault => exact ⟨rfl, request, context, lookups⟩
  | ok shown =>
      refine ⟨fault, request, ?_, lookups⟩
      simp only [World.addContext, client, scheme, context]

end Agrees

section Prepared

variable {settings others : Settings} {lookup : Lookup} {left right : Request} {peer : Endpoint}
  {world resolved settled : World} {overrides called : Overrides}

/-- Alike requests from one proxy that resolve to the same overrides, up to headers that are not
the host header, and that both reach their applications, are prepared alike. -/
theorem agrees_of_reached (alike : IsAlike left right)
    (names : settings.changesLocalName = others.changesLocalName)
    (ports : settings.changesLocalPort = others.changesLocalPort)
    (publishes : settings.publishesAttributes = others.publishesAttributes)
    (proxied : IsProxied settings left peer) (otherProxied : IsProxied others right peer)
    (resolution : (resolve settings lookup left.ensureState peer.host).run world =
      (.ok overrides, resolved))
    (otherResolution : (resolve others lookup right.ensureState peer.host).run world =
      (.ok called, settled))
    (same : overrides = { called with headers := overrides.headers })
    (unmanaged : ∀ update ∈ overrides.headers ++ called.headers,
      headerName update.1 ≠ .ok hostHeader)
    (context : resolved.context = settled.context) (lookups : resolved.lookups = settled.lookups)
    (reached : (prepare settings lookup left world).fault = none)
    (otherReached : (prepare others lookup right world).fault = none) :
    Agrees (prepare settings lookup left world) (prepare others lookup right world) := by
  obtain ⟨headers, written, accepts⟩ := (reached_iff_accepts proxied resolution).mp reached
  obtain ⟨found, rewritten, otherAccepts⟩ :=
    (reached_iff_accepts otherProxied otherResolution).mp otherReached
  obtain ⟨snapshot, reports, -, application⟩ := applyOverrides_of_accepts accepts resolved
  obtain ⟨kept, remarks, -, otherApplication⟩ := applyOverrides_of_accepts otherAccepts settled
  have approached : Agrees
      (approach settings lookup ⟨initialView settings, left.ensureState, world, none⟩)
      (approach others lookup ⟨initialView others, right.ensureState, world, none⟩) := by
    rw [approach_eq proxied, resolution, approach_eq otherProxied, otherResolution]
    simp only [application, otherApplication]
    exact ⟨rfl, alike.ensureState.enteredRequest same names ports unmanaged accepts otherAccepts,
      context, lookups⟩
  rw [prepare_eq, prepare_eq]
  refine (approached.andThen fun agrees => ?_).andThen Agrees.introduce
  rw [publishes]
  split
  · exact agrees.publish
  · exact agrees

/-- Alike requests from one proxy whose headers resolve to the same, up to updates of the chain
headers, are prepared alike. -/
theorem agrees_of_resolutions (clientNotHost : lower settings.clientHeader ≠ "host")
    (proxiesNotHost : lower settings.proxiesHeader ≠ "host") (alike : IsAlike left right)
    (proxied : IsProxied settings left peer)
    (resolutions : Step.Agrees CallAlike (resolve settings lookup left.ensureState peer.host)
      (resolve settings lookup right.ensureState peer.host)) (world : World) :
    ((prepare settings lookup left world).fault = none ↔
        (prepare settings lookup right world).fault = none) ∧
      ((prepare settings lookup left world).fault = none →
        Agrees (prepare settings lookup left world) (prepare settings lookup right world)) := by
  have otherProxied : IsProxied settings right peer :=
    ⟨alike.shown_eq.1.symm.trans proxied.client, proxied.known⟩
  have ended := resolutions world world
  rcases ran : (resolve settings lookup left.ensureState peer.host).run world with
    ⟨outcome, resolved⟩
  rcases otherRan : (resolve settings lookup right.ensureState peer.host).run world with
    ⟨otherOutcome, settled⟩
  rw [ran, otherRan] at ended
  cases ended with
  | error fault =>
      rw [prepare_of_unresolved proxied ran, prepare_of_unresolved otherProxied otherRan]
      exact ⟨Iff.rfl, fun none => nomatch none⟩
  | @ok overrides called calls =>
      have both := (reached_iff_accepts proxied ran).trans
        ((alike.ensureState.exists_accepts_iff_of_callAlike calls (initialView settings)).trans
          (reached_iff_accepts otherProxied otherRan).symm)
      refine ⟨both, fun reached => agrees_of_reached alike rfl rfl rfl proxied otherProxied ran
        otherRan calls.same ?unmanaged ?context ?lookups reached (both.mp reached)⟩
      case unmanaged =>
        obtain ⟨_, values, _, -, same⟩ := overrides_of_resolve ran
        obtain ⟨_, otherValues, _, -, otherSame⟩ := overrides_of_resolve otherRan
        have unmanaged := unmanaged_headerUpdates clientNotHost proxiesNotHost
        intro update member
        rw [same, otherSame] at member
        rcases List.mem_append.mp member with own | other
        · exact unmanaged _ _ update own
        · exact unmanaged _ _ update other
      case context =>
        have kept := resolve_keeps_context settings lookup left.ensureState peer.host world
        have otherKept := resolve_keeps_context settings lookup right.ensureState peer.host world
        rw [ran] at kept
        rw [otherRan] at otherKept
        exact kept.trans otherKept.symm
      case lookups =>
        obtain ⟨_, _, carries⟩ := carries_of_resolve ran
        obtain ⟨_, _, otherCarries⟩ := carries_of_resolve otherRan
        obtain ⟨looked, client⟩ := @resolve_client settings lookup _ peer.host _ _ carries
          world
        obtain ⟨otherLooked, otherClient⟩ := @resolve_client settings lookup _ peer.host _ _
          otherCarries world
        rw [ran] at looked client
        rw [otherRan] at otherLooked otherClient
        have addresses : overrides.remoteAddress = called.remoteAddress := by rw [calls.same]
        rw [looked, otherLooked, ← client _ rfl, ← otherClient _ rfl, addresses]

end Prepared

end ForwardedClient.Middleware
