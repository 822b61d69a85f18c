import ForwardedClient.Proofs.Middleware.SeparatePrecedence
import ForwardedClient.Proofs.Middleware.SeparateRewriting
import ForwardedClient.Proofs.Request.Reentry

/-!
Contract: two calls with the same settings, one of which is the application of the other.

Owns: the conditions under which the inner call changes nothing of what the outer one shows, for
requests from anybody and for both ways in which a walk can end.

Does not own: calls with different settings, and the standard dialect if no client was found, in
which the second reading of the header may count its proxies again.
-/

namespace ForwardedClient.Middleware

open ForwardedClient.Address
open ForwardedClient.Claim
open ForwardedClient.Data
open ForwardedClient.Journal
open ForwardedClient.Request
open ForwardedClient.Text
open ForwardedClient.Trust

/-! ### Claims of separate headers -/

section Claims

variable (settings : Settings) (headers : List Header)

/-- Claims whose name and port a host header can hold. -/
def ServerClaims.IsReadable (claims : ServerClaims) : Prop :=
  Request.IsReadable (claims.serverName, claims.serverPort)

theorem isReadable_addProtocol (values : List String) (port : Option String) :
    (ServerClaims.addProtocol {}
      ((protocolRules settings).resolve (Chain.read values) port).1).IsReadable := by
  have ported : port.toList.head? = port := by cases port <;> rfl
  have resolved := resolve_protocols settings values port.toList
  rw [ported] at resolved
  rw [resolved]
  refine ⟨(fun _ same => nomatch same), fun other same => ⟨_, ?_, (Option.some.inj same).symm⟩⟩
  cases claimed : port.bind claimedPort? with
  | none => exact impliedPort_le settings _
  | some number =>
      obtain ⟨claim, -, read⟩ := Option.bind_eq_some_iff.mp claimed
      exact claimedPort?_le read

theorem isReadable_addHost {claims : ServerClaims} (readable : claims.IsReadable) {claim : String}
    (latin : IsLatin claim) (source : String) :
    (claims.addHost (HostClaim.resolve claim source).1).IsReadable := by
  rw [resolve_fst]
  cases accepted : HostClaim.read claim with
  | error failure => exact readable
  | ok host =>
      obtain ⟨⟨isName, -⟩, bounded⟩ := ServerClaims.IsSound.host_of_read latin accepted
      refine ⟨fun name same => .literal (Option.some.inj same ▸ isName), fun port same => ?_⟩
      cases own : host.port with
      | none =>
          simp only [Except.toOption, ServerClaims.addHost, own] at same
          exact readable.port port same
      | some number =>
          simp only [Except.toOption, ServerClaims.addHost, own] at same
          exact ⟨number, bounded number own, (Option.some.inj same).symm⟩

theorem protocolClaims_readable :
    (protocolClaims settings headers).Ensures ServerClaims.IsReadable := by
  unfold protocolClaims
  split
  · exact .pure isReadable_none
  · refine .bind (.trivial _) fun values _ => ?_
    split
    · exact .pure isReadable_none
    · refine .bind (.trivial _) fun port _ => ?_
      exact .bind (.trivial _) fun _ _ => .pure (isReadable_addProtocol settings values port)

/-- Whatever proxies send, what is taken of it can be held by a host header. -/
theorem separateClaims_readable :
    (separateClaims settings headers).Ensures ServerClaims.IsReadable := by
  have latin : ∀ claim, claimValue headers settings.hostHeader = .ok claim →
      ∀ text, claim = some text → IsLatin text := by
    intro claim found text same
    rw [claimValue_eq] at found
    cases values : namedValues headers settings.hostHeader with
    | error fault =>
        rw [values] at found
        exact nomatch found
    | ok hosts =>
        rw [values, same] at found
        exact isLatin_of_mem_namedValues values (List.mem_of_head? (Except.ok.inj found))
  unfold separateClaims
  refine .bind (protocolClaims_readable settings headers) fun claims readable => ?_
  refine .bind (.ofExcept latin) fun claim isLatin => ?_
  split
  · exact .pure readable
  · rename_i text
    have hosted := isReadable_addHost readable (isLatin text rfl) (settings.hostHeader.getD "")
    generalize HostClaim.resolve text (settings.hostHeader.getD "") = resolved at hosted ⊢
    exact .bind (.trivial _) fun _ _ => .pure hosted

end Claims

/-- Claims depend on nothing but the values of their headers. -/
theorem separateClaims_of_namedValues {settings : Settings} {headers others : List Header}
    (protocols : namedValues others settings.protocolHeader =
      namedValues headers settings.protocolHeader)
    (ports : namedValues others settings.portHeader = namedValues headers settings.portHeader)
    (hosts : namedValues others settings.hostHeader = namedValues headers settings.hostHeader) :
    separateClaims settings others = separateClaims settings headers := by
  have spoken : protocolClaims settings others = protocolClaims settings headers := by
    unfold protocolClaims
    unfold namedValues at protocols
    cases configured : settings.protocolHeader.filter (!·.isEmpty) with
    | none => rfl
    | some name =>
        rw [configured] at protocols
        simp only at protocols
        simp only [protocols, claimValue_eq, ports]
  unfold separateClaims
  rw [spoken, claimValue_eq, claimValue_eq, hosts]

/-! ### Header names -/

/-- The names of the headers that proxies are expected to send, each if it is configured. -/
def claimNames (settings : Settings) : List String :=
  [settings.protocolHeader, settings.portHeader, settings.hostHeader].filterMap
    fun name => name.filter (!·.isEmpty)

/-- Settings whose header names differ, in whatever case they are written, from each other and from
those of the host header and of the standard header. -/
def HasDistinctNames (settings : Settings) : Prop :=
  ((settings.clientHeader :: settings.proxiesHeader :: claimNames settings ++
    ["host", Settings.standardHeader]).map lower).Nodup

namespace HasDistinctNames

variable {settings : Settings}

/-- It is enough to know the names in lower case. -/
theorem of_lower (names : List String)
    (spelled : (settings.clientHeader :: settings.proxiesHeader :: claimNames settings ++
      ["host", Settings.standardHeader]).map lower = names)
    (distinct : names.Nodup) : HasDistinctNames settings := by
  rw [HasDistinctNames, spelled]
  exact distinct

theorem lower_host : lower "host" = "host" := by decide +kernel

theorem client_ne_proxies (names : HasDistinctNames settings) :
    lower settings.clientHeader ≠ lower settings.proxiesHeader := by
  simp only [HasDistinctNames, List.cons_append, List.map_cons, List.nodup_cons,
    List.mem_cons, not_or] at names
  exact names.1.1

theorem client_ne_host (names : HasDistinctNames settings) :
    lower settings.clientHeader ≠ "host" := by
  simp only [HasDistinctNames, List.cons_append, List.map_cons, List.map_append, List.nodup_cons,
    List.mem_cons, List.mem_append, not_or, lower_host] at names
  exact names.1.2.2.1

theorem proxies_ne_host (names : HasDistinctNames settings) :
    lower settings.proxiesHeader ≠ "host" := by
  simp only [HasDistinctNames, List.cons_append, List.map_cons, List.map_append, List.nodup_cons,
    List.mem_cons, List.mem_append, not_or, lower_host] at names
  exact names.2.1.2.1

/-- A claim header is none of the headers that a call writes. -/
theorem claim_ne (names : HasDistinctNames settings) {name : String}
    (claimed : name ∈ claimNames settings) :
    lower name ≠ "host" ∧ lower settings.clientHeader ≠ lower name ∧
      lower settings.proxiesHeader ≠ lower name := by
  have member : lower name ∈ (claimNames settings).map lower := List.mem_map_of_mem claimed
  simp only [HasDistinctNames, List.cons_append, List.map_cons, List.map_append, List.nodup_cons,
    List.mem_cons, List.mem_append, not_or, lower_host] at names
  obtain ⟨⟨-, client, -⟩, ⟨proxies, -⟩, apart⟩ := names
  rw [List.nodup_append] at apart
  refine ⟨?_, fun same => client (same ▸ member), fun same => proxies (same ▸ member)⟩
  exact apart.2.2 _ member "host" List.mem_cons_self

end HasDistinctNames

/-- A request that calls show as it is. -/
def IsShownAsIs (settings : Settings) (lookup : Lookup) (request : Request) : Prop :=
  ∀ world, (prepare settings lookup request world).fault = none ∧
    IsUntouched request (prepare settings lookup request world).request

/-! ### Requests from others -/

section Direct

variable {settings : Settings} {lookup : Lookup} {request : Request} {headers : List Header}

/-- With a state it is shown as it is. -/
theorem prepare_of_isDirect_of_present (direct : IsDirect settings request)
    (listed : request.headers = some headers) (present : request.state ≠ .null) (world : World) :
    (prepare settings lookup request world).fault = none ∧
      (prepare settings lookup request world).request.state ≠ .null ∧
      IsUntouched request (prepare settings lookup request world).request := by
  obtain ⟨after, preparation⟩ := prepare_eq_of_isDirect direct listed present lookup world
  rw [preparation]
  refine ⟨rfl, Slot.value_ne_null _, rfl, rfl, rfl, rfl, ?_⟩
  rw [stateEntry?_eq present]
  exact congrArg Except.ok (find?_publishedFields_of_ne settings _ _ _ (by decide))

/-- A second call shows such a request as the first one did. -/
theorem isShownAsIs_of_isDirect (direct : IsDirect settings request) {world : World}
    (reached : (prepare settings lookup request world).fault = none) :
    IsShownAsIs settings lookup (prepare settings lookup request world).request := by
  intro other
  obtain ⟨headers, listed⟩ := listed_of_isDirect direct reached
  by_cases null : request.state = .null
  · obtain ⟨same, reaches⟩ := prepare_of_isDirect_of_null direct listed null lookup world
    obtain ⟨again, reachesAgain⟩ := prepare_of_isDirect_of_null direct listed null lookup other
    rw [same, again]
    exact ⟨reachesAgain.mpr (reaches.mp reached), rfl, rfl, rfl, rfl, rfl⟩
  · obtain ⟨-, present, untouched⟩ :=
      prepare_of_isDirect_of_present direct listed null world
    have still : IsDirect settings (prepare settings lookup request world).request :=
      fun peer client => direct peer (untouched.client.symm.trans client)
    obtain ⟨reachesAgain, -, again⟩ :=
      prepare_of_isDirect_of_present still (untouched.headers.trans listed) present other
    exact ⟨reachesAgain, again⟩

end Direct

/-! ### Requests from proxies -/

section Resolution

variable {settings : Settings} {lookup : Lookup} {request : Request} {peer : String}
  {overrides : Overrides} {headers changed seen : List Header} {values : List String}

/-- In the dialect of separate headers overrides are those of a walk, with claims that a host
header can hold. -/
theorem overrides_of_separate (separate : settings.standardHeaderOnly = false)
    (carries : Carries settings request headers values) {world after : World}
    (resolution : (resolve settings lookup request peer).run world = (.ok overrides, after)) :
    overrides.remoteAddress = (chainWalk settings values peer).client ∧
      overrides.remoteHost =
        (chainWalk settings values peer).client.map (hostNameOf settings lookup) ∧
      overrides.headers = chainUpdates settings (chainWalk settings values peer) ∧
      Request.IsReadable (overrides.serverName, overrides.serverPort) := by
  obtain ⟨hosted, ran, -⟩ := @resolve_separate settings lookup request peer headers values
    separate carries world
  rw [resolution] at ran
  cases claimed : (separateClaims settings headers).run hosted with
  | mk outcome ended =>
      cases outcome with
      | error fault =>
          rw [claimed] at ran
          exact nomatch congrArg Prod.fst ran
      | ok claims =>
          rw [claimed] at ran
          have same := Except.ok.inj (congrArg Prod.fst ran)
          subst same
          exact ⟨rfl, rfl, rfl, separateClaims_readable settings headers hosted claims ended claimed⟩

/-- In that dialect two requests are resolved alike if their chains and their claims are. -/
theorem resolve_of_sameValues (separate : settings.standardHeaderOnly = false) {other : Request}
    {others : List Header} (listed : request.headers = some headers)
    (otherListed : other.headers = some others)
    (chain : headerValues others settings.clientHeader =
      headerValues headers settings.clientHeader)
    (claims : separateClaims settings others = separateClaims settings headers) (world : World) :
    (resolve settings lookup other peer).run world =
      (resolve settings lookup request peer).run world := by
  simp only [resolve, headerList, listed, otherListed, separate, Bool.false_eq_true, if_false,
    Step.run_bind, Step.run_ofExcept, chain, claims]

section Rewritten

variable (separate : settings.standardHeaderOnly = false) (names : HasDistinctNames settings)
  (rewritten : IsRewritten settings values peer headers changed seen)

include separate names rewritten in
/-- No call writes the header of a claim. -/
theorem namedValues_of_isRewritten {name : Option String}
    (claimed : name ∈ [settings.protocolHeader, settings.portHeader, settings.hostHeader]) :
    namedValues seen name = namedValues headers name := by
  unfold namedValues
  cases configured : name.filter (!·.isEmpty) with
  | none => rfl
  | some text =>
      have isClaim : text ∈ claimNames settings :=
        List.mem_filterMap.mpr ⟨name, claimed, configured⟩
      obtain ⟨notHost, notClient, notProxies⟩ := names.claim_ne isClaim
      refine rewritten.headerValues_of_untouched notHost fun update member => ?_
      rw [headerUpdates_of_separate separate] at member
      rcases mem_chainUpdates member with isProxies | isClient
      · exact isProxies ▸ notProxies
      · exact isClient ▸ notClient

include separate names rewritten in
/-- A request that no client was found for is resolved again as it was. -/
theorem resolve_again (listed : request.headers = some headers)
    (unresolved : (chainWalk settings values peer).isResolved = false) {other : Request}
    (otherListed : other.headers = some seen) (world : World) :
    (resolve settings lookup other peer).run world =
      (resolve settings lookup request peer).run world := by
  have claimed := @namedValues_of_isRewritten settings peer headers changed seen values separate
    names rewritten
  exact resolve_of_sameValues separate listed otherListed
    (clientHeader_of_unresolved separate rewritten names.client_ne_proxies names.client_ne_host
      unresolved)
    (separateClaims_of_namedValues (claimed (by simp)) (claimed (by simp)) (claimed (by simp)))
    world

end Rewritten

/-- Without a client there is at most one update. -/
theorem nodup_chainUpdates_of_unresolved {walk : Walk} (unresolved : walk.isResolved = false) :
    ((chainUpdates settings walk).map fun update => lower update.1).Nodup := by
  rcases Nat.eq_zero_or_pos walk.chainProxies with internal | crossed
  · rw [chainUpdates_of_internal unresolved internal]
    exact List.nodup_nil
  · rw [chainUpdates_of_crossed unresolved crossed]
    simp

end Resolution

section Proxied

variable {settings : Settings} {lookup : Lookup} {request : Request} {peer : Endpoint}
  {headers : List Header} {values : List String} {world : World}

section Shown

variable {once : Request} {overrides : Overrides} {written : List Header} {published : Fields}
  (shown : once = { (initialView settings).enteredRequest overrides request written with
    state := .value published })
  (proxied : IsProxied settings request peer) (nobody : overrides.remoteAddress = none)

include shown proxied nobody in
/-- Without a client a request is shown as coming from the proxy. -/
theorem isProxied_of_shown : IsProxied settings once peer := by
  refine ⟨?_, proxied.known⟩
  rw [shown]
  show (request.withClient overrides.remoteAddress).client = _
  rw [nobody, withClient, proxied.client]

include shown proxied nobody in
/-- If what is shown is resolved to the same overrides, and these can be put on again, then nothing
else is shown. -/
theorem isShownAsIs_of_shown (unnamed : overrides.remoteHost = none)
    (accepts : (initialView settings).Accepts overrides once written written)
    (decided : ∀ world,
      ((resolve settings lookup once peer.host).run world).1 = .ok overrides) :
    IsShownAsIs settings lookup once := by
  intro world
  have ensured : once.ensureState = once := by
    rw [shown]
    rfl
  have found := decided world
  rw [← ensured] at found accepts
  obtain ⟨_, _, -, again⟩ :=
    prepare_eq_of_decided (isProxied_of_shown shown proxied nobody) found accepts
  rw [again]
  refine ⟨rfl, ?_⟩
  rw [ensured, shown]
  refine ForwardedView.isUntouched_enteredRequest _ _ _ _ ?_
  rw [find?_publishedFields_of_ne _ _ _ _ (by decide), Fields.find?_set, if_neg (by decide),
    Overrides.nameHost, unnamed]
  rfl

end Shown

/-- A second call shows a request, of which the first one found no client, as the first one did. -/
theorem isShownAsIs_of_unresolved (separate : settings.standardHeaderOnly = false)
    (names : HasDistinctNames settings) (proxied : IsProxied settings request peer)
    (tells : TellsServer headers request.server)
    (carries : Carries settings request headers values)
    (unresolved : (chainWalk settings values peer.host).isResolved = false)
    (reached : (prepare settings lookup request world).fault = none) :
    IsShownAsIs settings lookup (prepare settings lookup request world).request := by
  obtain ⟨overrides, resolved, ownHeaders, written, resolution, accepts⟩ :=
    prepare_reached proxied reached
  obtain ⟨_, published, _, -, preparation⟩ := prepare_of_accepts proxied resolution accepts
  have listed : request.ensureState.headers = some headers := by
    rw [ensureState_eq]
    exact carries.listed
  have sameHeaders : ownHeaders = headers := Option.some.inj (accepts.listed.symm.trans listed)
  subst sameHeaders
  obtain ⟨address, host, updates, claimed⟩ :=
    overrides_of_separate separate ⟨listed, carries.found⟩ resolution
  have nobody : (chainWalk settings values peer.host).client = none := by
    simpa [Walk.isResolved] using unresolved
  rw [nobody] at address host
  -- The overrides can be put on again: they update at most one header, and not that of the host.
  have unmanaged := unmanaged_headerUpdates names.client_ne_host names.proxies_ne_host values
    (chainWalk settings values peer.host)
  rw [headerUpdates_of_separate separate, ← updates] at unmanaged
  have distinct := @nodup_chainUpdates_of_unresolved settings _ unresolved
  rw [← updates] at distinct
  have readable : IsReadable (nameAndPort request.ensureState.isSecure ownHeaders
      request.ensureState.server) := by
    rw [ensureState_eq]
    exact tells.isReadable _
  have acceptsAgain := (ForwardedView.accepts_again accepts distinct unmanaged claimed
    readable).withState (Slot.value_ne_null published)
  -- The same overrides are found again, since a walk without a client leaves its chain as it was.
  obtain ⟨changed, assigned, hosted⟩ := accepts.assigned
  have rewritten : IsRewritten settings values peer.host ownHeaders changed written :=
    ⟨by rw [headerUpdates_of_separate separate, ← updates]; exact assigned, _, hosted⟩
  have proxiedEnsured : IsProxied settings request.ensureState peer :=
    ⟨(ensureState_client request).trans proxied.client, proxied.known⟩
  rw [preparation]
  refine isShownAsIs_of_shown rfl proxiedEnsured address host acceptsAgain fun other => ?_
  rw [resolve_again separate names rewritten listed unresolved rfl,
    resolve_isSteady settings lookup request.ensureState peer.host other world, resolution]

/-- What a proxy passed on is shown with a state. -/
theorem state_of_reached (proxied : IsProxied settings request peer)
    (reached : (prepare settings lookup request world).fault = none) :
    (prepare settings lookup request world).request.state ≠ .null := by
  obtain ⟨overrides, resolved, headers, written, resolution, accepts⟩ :=
    prepare_reached proxied reached
  obtain ⟨_, published, _, -, preparation⟩ := prepare_of_accepts proxied resolution accepts
  rw [preparation]
  exact Slot.value_ne_null _

/-- A client that was found is no proxy, so that a second call takes its word for nothing. -/
theorem isShownAsIs_of_resolved (proxied : IsProxied settings request peer)
    (carries : Carries settings request headers values)
    (resolved : (chainWalk settings values peer.host).isResolved = true)
    (reached : (prepare settings lookup request world).fault = none) :
    IsShownAsIs settings lookup (prepare settings lookup request world).request := by
  obtain ⟨others, found, changed, seen, otherCarries, -, listed, client⟩ :=
    isRewritten_of_reached proxied reached
  obtain ⟨rfl, rfl⟩ := carries.unique otherCarries
  obtain ⟨address, stopped⟩ := Option.isSome_iff_exists.mp resolved
  have stranger : settings.rules.isProxy address = false := not_isProxy_of_client stopped
  have direct : IsDirect settings (prepare settings lookup request world).request := by
    intro shown same
    rw [client, stopped, withClient, proxied.client] at same
    injection same with same
    rw [← same]
    exact stranger
  intro other
  obtain ⟨reachedAgain, -, untouched⟩ := prepare_of_isDirect_of_present direct listed
    (state_of_reached proxied reached) other
  exact ⟨reachedAgain, untouched⟩

end Proxied

/-! ### One call in another -/

/-- A request from a known proxy in whose headers a client is found. -/
def FindsClient (settings : Settings) (request : Request) : Prop :=
  ∃ peer headers values, IsProxied settings request peer ∧ Carries settings request headers values ∧
    (chainWalk settings values peer.host).isResolved = true

section Stacked

variable {settings : Settings} {lookup : Lookup} {request : Request} {world : World}

/-- Whoever a request comes from, a second call shows it as the first one did. -/
theorem isShownAsIs_prepare (names : HasDistinctNames settings)
    (tells : ∀ headers, request.headers = some headers → TellsServer headers request.server)
    (mode : settings.standardHeaderOnly = false ∨ FindsClient settings request)
    (reached : (prepare settings lookup request world).fault = none) :
    IsShownAsIs settings lookup (prepare settings lookup request world).request := by
  rcases isProxied_or_isDirect settings request with ⟨peer, proxied⟩ | direct
  · obtain ⟨headers, values, -, -, carries, -⟩ := isRewritten_of_reached proxied reached
    cases resolved : (chainWalk settings values peer.host).isResolved with
    | true => exact isShownAsIs_of_resolved proxied carries resolved reached
    | false =>
        rcases mode with separate | ⟨found, foundHeaders, foundValues, foundProxied, foundCarries,
          isFound⟩
        · exact isShownAsIs_of_unresolved separate names proxied (tells headers carries.listed)
            carries resolved reached
        · obtain ⟨rfl, rfl⟩ := carries.unique foundCarries
          rw [foundProxied.unique proxied, isFound] at resolved
          exact nomatch resolved
  · exact isShownAsIs_of_isDirect direct reached

theorem kind_of_reached {kind : String} (handled : request.kind = some kind)
    (reached : (prepare settings lookup request world).fault = none) :
    (prepare settings lookup request world).request.kind = some kind := by
  rcases isProxied_or_isDirect settings request with ⟨peer, proxied⟩ | direct
  · obtain ⟨overrides, resolved, headers, written, resolution, accepts⟩ :=
      prepare_reached proxied reached
    obtain ⟨_, published, _, -, preparation⟩ := prepare_of_accepts proxied resolution accepts
    rw [preparation, ← handled]
    show request.ensureState.kind = _
    rw [ensureState_eq]
  · cases listed : request.headers with
    | none =>
        obtain ⟨_, preparation⟩ := prepare_of_isDirect_of_unlisted direct listed lookup world
        rw [preparation] at reached
        exact nomatch reached
    | some headers =>
        by_cases null : request.state = .null
        · rw [(prepare_of_isDirect_of_null direct listed null lookup world).1, handled]
        · obtain ⟨_, _, preparation⟩ := prepare_of_isDirect direct listed null lookup world
          rw [preparation]
          exact handled

end Stacked

/-- Stacked calls show what a single one shows. Let the header names of the settings differ, and
let a request tell its server by a host header or a local endpoint that can be read. In the dialect
of separate headers, and in the standard one if a client is found, a call that has another call with
the same settings as its application ends as it would alone if it does not reach its application;
if it does, the inner call reaches its own, and shows it the same client, scheme, server, headers
and remote host as a single call shows. -/
theorem stacking_shows_same_view (settings : Settings) (lookup : Lookup)
    (application : Application) (request : Request) (world : World) (kind : String)
    (handled : request.kind = some kind) (known : isHandledKind kind = true)
    (names : HasDistinctNames settings)
    (tells : ∀ headers, request.headers = some headers → TellsServer headers request.server)
    (mode : settings.standardHeaderOnly = false ∨ FindsClient settings request) :
    let once := prepare settings lookup request world
    let twice := prepare settings lookup once.request once.world
    (once.fault.isSome = true →
      handle settings lookup (handle settings lookup application) request world =
        handle settings lookup application request world) ∧
      (once.fault = none →
        handle settings lookup application request world =
            finish once.view (application once.request once.world) ∧
          handle settings lookup (handle settings lookup application) request world =
            finish once.view (finish twice.view (application twice.request twice.world)) ∧
          IsUntouched once.request twice.request) := by
  intro once twice
  refine ⟨fun failed => ?failed, fun reached => ?reached⟩
  case failed =>
    obtain ⟨fault, failure⟩ := Option.isSome_iff_exists.mp failed
    rw [handle_of_unreached handled known failure, handle_of_unreached handled known failure]
  case reached =>
    obtain ⟨reachedAgain, untouched⟩ := isShownAsIs_prepare names tells mode reached once.world
    have inner : handle settings lookup application once.request once.world =
        finish twice.view (application twice.request twice.world) :=
      handle_of_reached (kind_of_reached handled reached) known reachedAgain
    exact ⟨handle_of_reached handled known reached,
      (handle_of_reached handled known reached).trans (congrArg (finish once.view) inner),
      untouched⟩

/-- Settings under which secure requests are claimed to come in at a port of their own. -/
def gatewaySettings : Settings :=
  { edgeSettings with
    protocolHeader := some "X-Forwarded-Proto"
    securePort := ⟨8443, by decide⟩ }

theorem hasDistinctNames_gatewaySettings : HasDistinctNames gatewaySettings :=
  .of_lower ["x-forwarded-for", "x-forwarded-by", "x-forwarded-proto", "host", "forwarded"]
    (by decide +kernel) (by decide)

/-- A secure request from a proxy that names no client, to a server that is known by its address. -/
def localRequest (address : String) : Request :=
  { kind := some "http"
    scheme := some "http"
    headers := some [⟨onWire "x-forwarded-proto", onWire "https"⟩]
    client := .value edgePeer
    server := .value ⟨address, some 8080⟩ }

/-- What a call under these settings shows of a request, and what one more call makes of that. -/
def shownOnce (request : Request) : Prepared := prepare gatewaySettings nowhere request {}

def shownTwice (request : Request) : Prepared :=
  prepare gatewaySettings nowhere (shownOnce request).request (shownOnce request).world

/-- The host headers that an application is shown. -/
def shownHosts (prepared : Prepared) : List String :=
  Headers.values (prepared.request.headers.getD []) hostHeader

theorem localRequest_stacked :
    shownHosts (shownOnce (localRequest "fe80::1%eth0")) = ["[fe80::1%eth0]:8443"] ∧
      IsUntouched (shownOnce (localRequest "fe80::1%eth0")).request
        (shownTwice (localRequest "fe80::1%eth0")).request := by
  have named : IsServerName "fe80::1%eth0" := by
    refine .bare (by decide +kernel) fun char member => ?_
    have unclosed : "fe80::1%eth0".toList.all (· != ']') = true := by decide
    simpa using List.all_eq_true.mp unclosed char member
  have tells : ∀ headers, (localRequest "fe80::1%eth0").headers = some headers →
      TellsServer headers (localRequest "fe80::1%eth0").server := by
    intro headers listed
    injection listed with same
    subst same
    refine .endpoint (fun text found => ?_) (fun endpoint same => ?_)
      fun endpoint port same own => ?_
    · exact nomatch found
    · injection same with same
      exact same ▸ named
    · injection same with same
      subst same
      exact Option.some.inj own ▸ by decide
  obtain ⟨-, shows⟩ := stacking_shows_same_view gatewaySettings nowhere (run nowhere [])
    (localRequest "fe80::1%eth0") {} "http" rfl rfl hasDistinctNames_gatewaySettings tells
    (Or.inl rfl)
  have reached : (shownOnce (localRequest "fe80::1%eth0")).fault = none := by decide +kernel
  unfold shownTwice shownOnce at *
  exact ⟨by decide +kernel, (shows reached).2.2⟩

/-- An address whose zone closes the brackets is written into a host header that cannot be read, so
that all of it is the name of the server for the second call, which adds the port once more. -/
theorem stacking_repeats_port :
    HasDistinctNames gatewaySettings ∧ gatewaySettings.standardHeaderOnly = false ∧
      isIpv6 "fe80::1%a]b".toList = true ∧
      (shownOnce (localRequest "fe80::1%a]b")).fault = none ∧
      shownHosts (shownOnce (localRequest "fe80::1%a]b")) = ["[fe80::1%a]b]:8443"] ∧
      (shownTwice (localRequest "fe80::1%a]b")).fault = none ∧
      shownHosts (shownTwice (localRequest "fe80::1%a]b")) = ["[fe80::1%a]b]:8443:8443"] ∧
      ¬ IsUntouched (shownOnce (localRequest "fe80::1%a]b")).request
        (shownTwice (localRequest "fe80::1%a]b")).request := by
  have once : (shownOnce (localRequest "fe80::1%a]b")).fault = none ∧
      shownHosts (shownOnce (localRequest "fe80::1%a]b")) = ["[fe80::1%a]b]:8443"] := by
    decide +kernel
  have twice : (shownTwice (localRequest "fe80::1%a]b")).fault = none ∧
      shownHosts (shownTwice (localRequest "fe80::1%a]b")) = ["[fe80::1%a]b]:8443:8443"] := by
    decide +kernel
  refine ⟨hasDistinctNames_gatewaySettings, rfl, by decide +kernel, once.1, once.2, twice.1,
    twice.2, fun untouched => ?_⟩
  have same : shownHosts (shownTwice (localRequest "fe80::1%a]b")) =
      shownHosts (shownOnce (localRequest "fe80::1%a]b")) := by
    rw [shownHosts, shownHosts, untouched.headers]
  rw [once.2, twice.2] at same
  exact absurd same (by decide)

end ForwardedClient.Middleware
