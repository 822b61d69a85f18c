import ForwardedClient.Proofs.Forwarded.Hop
import ForwardedClient.Proofs.Middleware.Agreement
import ForwardedClient.Proofs.Middleware.Progress
import ForwardedClient.Proofs.Middleware.Rewriting

/-!
Contract: the two dialects agree.

Owns: requests that carry the same hops and the same host claim, one in separate headers and one in
the standard header, the overrides that both resolve to, and what their applications are shown.

Does not own: hops that only one of the dialects can spell.
-/

namespace ForwardedClient.Middleware

open ForwardedClient.Address
open ForwardedClient.Forwarded
open ForwardedClient.Request
open ForwardedClient.Text
open ForwardedClient.Trust

/-! ### Carrying hops -/

/-- The same settings in the standard dialect. -/
def inStandardDialect (settings : Settings) : Settings :=
  { settings with standardHeaderOnly := true }

def withHeaders (request : Request) (headers : List Header) : Request :=
  { request with headers := some headers }

/-- Headers that carry hops and a host claim, if there is one, in the dialect of separate headers:
a chain of nodes, a chain of protocols unless no hop has one, and the claim. -/
structure CarriesSeparately (settings : Settings) (headers : List Header) (hops : List Hop)
    (host : Option String) : Prop where
  chain : headerValues headers settings.clientHeader = .ok [Chain.write (addresses hops)]
  spoken : namedValues headers settings.protocolHeader =
    .ok (if protocols hops = [] then [] else [Chain.write (protocols hops)])
  hosted : namedValues headers settings.hostHeader = .ok host.toList

/-- Headers that carry hops and a host claim in one standard header, with or without quotes. -/
def CarriesTogether (headers : List Header) (hops : List Hop) (host : Option String) : Prop :=
  ∃ quote : String → String, (∀ value, IsShownAs value (quote value)) ∧
    headerValues headers Settings.standardHeader = .ok [writeElements quote (elements host hops)]

/-! ### Resolution -/

/-- The overrides that hops and a host claim amount to, with some header updates. -/
def hopOverrides (settings : Settings) (lookup : Lookup) (peer : String) (hops : List Hop)
    (host : Option String) (updates : List (String × Option String)) : Overrides :=
  let walked := walk settings.rules (addresses hops) peer
  overridesOf walked (walked.client.map (hostNameOf settings lookup)) updates
    (claimsOfValues settings (protocols hops) host.toList)

/-- A request that resolves to the overrides of some hops and a host claim. Its header updates can
be written, and leave the host header alone. -/
def ResolvesHops (settings : Settings) (lookup : Lookup) (request : Request) (peer : String)
    (world : World) (hops : List Hop) (host : Option String) : Prop :=
  ∃ updates resolved,
    (resolve settings lookup request peer).run world =
      (.ok (hopOverrides settings lookup peer hops host updates), resolved) ∧
    (∀ update ∈ updates, IsWritable update ∧ headerName update.1 ≠ .ok hostHeader) ∧
    resolved.lookups =
      world.lookups ++ lookedUp settings (walk settings.rules (addresses hops) peer).client

section Resolution

variable {settings : Settings} {request : Request} {headers : List Header} {hops : List Hop}
  {host : Option String} {peer : String}

/-- Without a port header, separate claims are those of a standard header with the same values. -/
theorem separateClaimsOf_hops (settings : Settings) (hops : List Hop) (hosts : List String) :
    separateClaimsOf settings
        (if protocols hops = [] then [] else [Chain.write (protocols hops)]) [] hosts =
      claimsOfValues settings (protocols hops) hosts := by
  have spoken : protocolClaimsOf settings
      (if protocols hops = [] then [] else [Chain.write (protocols hops)]) none =
        claimsOfProtocols settings (protocols hops) := by
    unfold protocolClaimsOf claimsOfProtocols
    by_cases silent : protocols hops = []
    · simp [silent]
    · simp [silent, read_protocols, resolve_eq]
  cases hosts with
  | nil => simp only [separateClaimsOf, claimsOfValues, List.head?_nil, spoken]
  | cons claim rest =>
      simp only [separateClaimsOf, claimsOfValues, List.head?_cons, List.head?_nil, spoken]

variable (names : HasLatinNames settings) (clientNotHost : lower settings.clientHeader ≠ "host")
  (proxiesNotHost : lower settings.proxiesHeader ≠ "host") (peerLatin : IsLatin peer)

include names clientNotHost proxiesNotHost peerLatin

theorem settled_headerUpdates {values : List String}
    (carries : Carries settings request headers values) :
    ∀ update ∈ headerUpdates settings values (chainWalk settings values peer),
      IsWritable update ∧ headerName update.1 ≠ .ok hostHeader := by
  have latin : ∀ value ∈ values, IsLatin value :=
    fun _ member => isLatin_of_mem_headerValues carries.found member
  exact fun update member => ⟨isWritable_headerUpdates names latin peerLatin update member,
    unmanaged_headerUpdates clientNotHost proxiesNotHost values _ update member⟩

/-- Hops in separate headers are resolved. -/
theorem resolvesHops_of_separately (separate : settings.standardHeaderOnly = false)
    (unpriced : settings.portHeader.filter (!·.isEmpty) = none)
    (listed : request.headers = some headers)
    (separately : CarriesSeparately settings headers hops host) (lookup : Lookup)
    (world : World) : ResolvesHops settings lookup request peer world hops host := by
  have notStandard : ¬ settings.standardHeaderOnly = true := by simp [separate]
  have carries : Carries settings request headers [Chain.write (addresses hops)] :=
    ⟨listed, by rw [chainHeader, if_neg notStandard, separately.chain]⟩
  have walked : chainWalk settings [Chain.write (addresses hops)] peer =
      walk settings.rules (addresses hops) peer := by
    rw [chainWalk, readChain, if_neg notStandard, read_addresses]
  have ports : namedValues headers settings.portHeader = .ok [] := by
    unfold namedValues
    rw [unpriced]
  have settled := settled_headerUpdates names clientNotHost proxiesNotHost peerLatin carries
  obtain ⟨hosted, ran, looked⟩ := @resolve_separate settings lookup request peer headers _ separate
    carries world
  have kept := separateClaims_keeps World.lookups (fun _ _ => rfl) settings headers hosted
  obtain ⟨resolved, claimed⟩ :=
    separateClaims_run separately.spoken ports separately.hosted hosted
  rw [claimed] at kept
  rw [claimed, separateClaimsOf_hops, walked] at ran
  rw [headerUpdates, if_neg notStandard, walked] at settled
  exact ⟨_, resolved, ran, settled, kept.trans (walked ▸ looked)⟩

/-- Hops in a standard header are resolved, and to the same overrides but for the updates. -/
theorem resolvesHops_of_together (standard : settings.standardHeaderOnly = true)
    (listed : request.headers = some headers) (filled : hops ≠ [])
    (claimed : ∀ claim, host = some claim → IsHostClaim claim)
    (together : CarriesTogether headers hops host) (lookup : Lookup) (world : World) :
    ResolvesHops settings lookup request peer world hops host := by
  obtain ⟨quote, quotes, found⟩ := together
  obtain ⟨nodes, spoken, hosts⟩ := DirectiveMap.values_read_hops quotes claimed filled
  have carries : Carries settings request headers [writeElements quote (elements host hops)] :=
    ⟨listed, by rw [chainHeader, if_pos standard, found]⟩
  have walked : chainWalk settings [writeElements quote (elements host hops)] peer =
      walk settings.rules (addresses hops) peer := by
    rw [chainWalk, readChain, if_pos standard, nodes]
  have settled := settled_headerUpdates names clientNotHost proxiesNotHost peerLatin carries
  obtain ⟨resolved, ran, looked⟩ := @resolve_standard settings lookup request peer headers _
    standard carries world
  rw [standardClaims_eq, spoken, hosts, walked] at ran
  rw [headerUpdates, if_pos standard, walked] at settled
  exact ⟨_, resolved, ran, settled, walked ▸ looked⟩

end Resolution

/-! ### Agreement -/

theorem HasLatinNames.inStandardDialect {settings : Settings} (names : HasLatinNames settings) :
    HasLatinNames (inStandardDialect settings) :=
  ⟨names.client, names.proxies, names.protocol, names.port, names.host⟩

/-- Alike requests from one proxy that carry the same hops, each in its dialect, reach their
applications together, and are then shown alike. -/
theorem agrees_of_resolvesHops {settings : Settings} {lookup : Lookup} {left right : Request}
    {peer : Endpoint} {world : World} {hops : List Hop} {host : Option String}
    (names : HasLatinNames settings) (alike : IsAlike left right)
    (proxied : IsProxied settings left peer)
    (otherProxied : IsProxied (inStandardDialect settings) right peer)
    (resolves : ResolvesHops settings lookup left.ensureState peer.host world hops host)
    (otherResolves : ResolvesHops (inStandardDialect settings) lookup right.ensureState peer.host
      world hops host) :
    ((prepare settings lookup left world).fault = none ↔
        (prepare (inStandardDialect settings) lookup right world).fault = none) ∧
      ((prepare settings lookup left world).fault = none →
        Agrees (prepare settings lookup left world)
          (prepare (inStandardDialect settings) lookup right world)) := by
  obtain ⟨updates, resolved, ran, settled, looked⟩ := resolves
  obtain ⟨others, ended, otherRan, otherSettled, otherLooked⟩ := otherResolves
  have both : ∀ update ∈ updates ++ others,
      IsWritable update ∧ headerName update.1 ≠ .ok hostHeader := by
    intro update member
    rcases List.mem_append.mp member with own | other
    · exact settled update own
    · exact otherSettled update other
  have managed : ∀ name ∈ (initialView settings).names ++
      (initialView (inStandardDialect settings)).names, IsLatin name := by
    intro name member
    rcases List.mem_append.mp member with own | other
    · exact names.managed name own
    · exact names.inStandardDialect.managed name other
  have context := resolve_keeps_context settings lookup left.ensureState peer.host world
  have otherContext := resolve_keeps_context (inStandardDialect settings) lookup
    right.ensureState peer.host world
  rw [ran] at context
  rw [otherRan] at otherContext
  have together : (prepare settings lookup left world).fault = none ↔
      (prepare (inStandardDialect settings) lookup right world).fault = none := by
    rw [reached_iff_accepts proxied ran, reached_iff_accepts otherProxied otherRan]
    exact alike.ensureState.exists_accepts_iff rfl managed fun update member =>
      (both update member).1
  refine ⟨together, fun reached => ?_⟩
  exact agrees_of_reached alike rfl rfl rfl proxied otherProxied ran otherRan rfl
    (fun update member => (both update member).2) (context.trans otherContext.symm)
    (looked.trans otherLooked.symm) reached (together.mp reached)

/-- The dialects agree. Two requests from one known proxy that differ only in their headers, and not
in their host headers, carry the same hops and the same host claim, one in separate headers and the
other in one standard header. If the header names of the settings can stand on the wire, the chain
headers are not the host header and no port header is looked for, then either both reach their
applications or neither does, and both do if they have a state and the address of their local
endpoint is a text of bytes. Both applications are then shown the same client, scheme, state with
the name of the client, local endpoint, server name and port, host headers and journal, after the
same look-ups. -/
theorem dialects_agree (settings : Settings) (lookup : Lookup) (application : Application)
    (request : Request) (peer : Endpoint) (world : World) (kind : String) (hops : List Hop)
    (host : Option String) (headers others : List Header)
    (separate : settings.standardHeaderOnly = false) (names : HasLatinNames settings)
    (unpriced : settings.portHeader.filter (!·.isEmpty) = none)
    (clientNotHost : lower settings.clientHeader ≠ "host")
    (proxiesNotHost : lower settings.proxiesHeader ≠ "host")
    (handled : request.kind = some kind) (known : isHandledKind kind = true)
    (proxied : IsProxied settings request peer) (peerLatin : IsLatin peer.host)
    (filled : hops ≠ []) (claimed : ∀ claim, host = some claim → IsHostClaim claim)
    (separately : CarriesSeparately settings headers hops host)
    (together : CarriesTogether others hops host)
    (hosts : Headers.values headers hostHeader = Headers.values others hostHeader) :
    let left := prepare settings lookup (withHeaders request headers) world
    let right := prepare (inStandardDialect settings) lookup (withHeaders request others) world
    (left.fault = none ↔ right.fault = none) ∧
      (request.state ≠ .null →
        (∀ endpoint, request.server = .value endpoint → IsLatin endpoint.host) →
        left.fault = none) ∧
      (left.fault = none →
        handle settings lookup application (withHeaders request headers) world =
            finish left.view (application left.request left.world) ∧
          handle (inStandardDialect settings) lookup application (withHeaders request others)
              world = finish right.view (application right.request right.world) ∧
          left.request.serverNameAndPort = right.request.serverNameAndPort ∧
          Agrees left right) := by
  intro left right
  have listed : ∀ list, (withHeaders request list).ensureState.headers = some list := by
    intro list
    rw [ensureState_eq]
    rfl
  have leftProxied : IsProxied settings (withHeaders request headers) peer :=
    ⟨proxied.client, proxied.known⟩
  have rightProxied : IsProxied (inStandardDialect settings) (withHeaders request others) peer :=
    ⟨proxied.client, proxied.known⟩
  have alike : IsAlike (withHeaders request headers) (withHeaders request others) :=
    ⟨headers, others, rfl, rfl, hosts⟩
  obtain ⟨both, agree⟩ := agrees_of_resolvesHops names alike leftProxied rightProxied
    (resolvesHops_of_separately names clientNotHost proxiesNotHost peerLatin separate unpriced
      (listed headers) separately lookup world)
    (resolvesHops_of_together names.inStandardDialect clientNotHost proxiesNotHost peerLatin rfl
      (listed others) filled claimed together lookup world)
  refine ⟨both, fun present server => ?reached, fun reached => ?seen⟩
  case reached =>
    have client : ∀ endpoint, request.client = .value endpoint → IsLatin endpoint.host := by
      intro endpoint same
      rw [proxied.client] at same
      injection same with same
      exact same ▸ peerLatin
    have leftListed : (withHeaders request headers).headers = some headers := rfl
    exact prepare_reaches names leftListed present client server lookup world
  case seen =>
    have agrees : Agrees left right := agree reached
    exact ⟨handle_of_reached handled known reached,
      handle_of_reached handled known (both.mp reached), agrees.request.serverNameAndPort, agrees⟩

/-- Settings under which protocols and hosts are looked for. -/
def hopSettings : Settings := { claimSettings with portHeader := none }

theorem hasLatinNames_hopSettings : HasLatinNames hopSettings :=
  { hasLatinNames_claimSettings with port := fun _ same => nomatch same }

theorem isPlainNode_relay : IsPlainNode "198.51.100.9" where
  clean := ⟨by decide, List.all_eq_true.mp (by decide : "198.51.100.9".toList.all isPlain = true)⟩
  noBlank := by
    have visible : "198.51.100.9".toList.all (!isBlank ·) = true := by decide
    simpa only [List.all_eq_true, Bool.not_eq_true'] using visible
  unopened := by decide
  given := by decide +kernel

theorem isPlainIpv6_client : IsPlainIpv6 "2001:db8::7".toList where
  ipv6 := by decide +kernel
  zoneless := by decide

theorem isHostClaim_shop : IsHostClaim "shop.example:8443" where
  clean :=
    ⟨by decide, List.all_eq_true.mp (by decide : "shop.example:8443".toList.all isPlain = true)⟩
  given := by decide +kernel

/-- Two hops, the nearer one from a client with a port. -/
def twoHops : List Hop :=
  [⟨.plain "198.51.100.9" isPlainNode_relay, some "http", by decide +kernel⟩,
    ⟨.ipv6 "2001:db8::7".toList (some "4711".toList) isPlainIpv6_client (by decide),
      some "HTTPS", by decide +kernel⟩]

/-- These hops in separate headers. -/
def separateHops : List Header :=
  [⟨onWire "x-forwarded-for", onWire "198.51.100.9, 2001:db8::7:4711"⟩,
    ⟨hostHeader, onWire "edge.example"⟩,
    ⟨onWire "x-forwarded-proto", onWire "http, HTTPS"⟩,
    ⟨onWire "x-forwarded-host", onWire "shop.example:8443"⟩]

/-- These hops in a standard header. -/
def standardHops : List Header :=
  [⟨hostHeader, onWire "edge.example"⟩,
    ⟨standardName, onWire ("for=\"198.51.100.9\";host=\"shop.example:8443\";proto=\"http\", " ++
      "for=\"[2001:db8::7]:4711\";proto=\"HTTPS\"")⟩]

theorem separateHops_carries :
    CarriesSeparately hopSettings separateHops twoHops (some "shop.example:8443") := by
  constructor <;> decide +kernel

theorem standardHops_carries :
    CarriesTogether standardHops twoHops (some "shop.example:8443") :=
  ⟨fun value => "\"" ++ value ++ "\"", fun _ => Or.inr rfl, by decide +kernel⟩

/-- A request of a known proxy, whatever its headers. -/
def hopRequest : Request :=
  { kind := some "http"
    scheme := some "http"
    client := .value edgePeer
    server := .value ⟨"127.0.0.1", some 8080⟩ }

theorem twoHops_agree :
    Agrees (prepare hopSettings nowhere (withHeaders hopRequest separateHops) {})
        (prepare (inStandardDialect hopSettings) nowhere (withHeaders hopRequest standardHops) {}) ∧
      (prepare hopSettings nowhere (withHeaders hopRequest separateHops) {}).fault = none := by
  have server : ∀ endpoint, hopRequest.server = .value endpoint → IsLatin endpoint.host := by
    intro endpoint same
    injection same with same
    exact same ▸ by decide
  obtain ⟨-, reaches, shown⟩ := dialects_agree hopSettings nowhere (run nowhere []) hopRequest
    edgePeer {} "http" twoHops (some "shop.example:8443") separateHops standardHops rfl
    hasLatinNames_hopSettings rfl (by decide +kernel) (by decide +kernel) rfl rfl
    ⟨rfl, by decide +kernel⟩ (by decide) (List.cons_ne_nil _ _)
    (fun _ same => Option.some.inj same ▸ isHostClaim_shop) separateHops_carries
    standardHops_carries (by decide +kernel)
  have reached := reaches (by simp [hopRequest]) server
  exact ⟨(shown reached).2.2.2, reached⟩

/-- If the client is found in separate headers the proxies header is written, so that its name can
stand on the wire. -/
theorem exists_proxiesName_of_reached {settings : Settings} {lookup : Lookup} {request : Request}
    {peer : Endpoint} {world : World} {headers : List Header} {values : List String}
    (separate : settings.standardHeaderOnly = false)
    (distinct : lower settings.clientHeader ≠ lower settings.proxiesHeader)
    (proxied : IsProxied settings request peer)
    (carries : Carries settings request headers values)
    (resolved : (chainWalk settings values peer.host).isResolved = true)
    (reached : (prepare settings lookup request world).fault = none) :
    ∃ name, headerName settings.proxiesHeader = .ok name := by
  obtain ⟨others, found, changed, seen, otherCarries, rewritten, -, -⟩ :=
    isRewritten_of_reached proxied reached
  obtain ⟨rfl, rfl⟩ := carries.unique otherCarries
  have updated := rewritten.updated
  rw [headerUpdates, if_neg (by simp [separate]), chainUpdates_of_resolved distinct resolved]
    at updated
  obtain ⟨name, named, -⟩ := Headers.values_assignAll_cons (by simpa using distinct) updated
  exact ⟨name, named⟩

/-- Settings with a proxies header that cannot stand on the wire. -/
def unwritableSettings : Settings := { hopSettings with proxiesHeader := "X-İleten" }

/-- One hop without a protocol, and the headers that carry it. -/
def oneHop : List Hop :=
  [⟨.plain "198.51.100.9" isPlainNode_relay, none, fun _ none => nomatch none⟩]

def separateHop : List Header :=
  [⟨hostHeader, onWire "localhost"⟩, ⟨onWire "x-forwarded-for", onWire "198.51.100.9"⟩]

def standardHop : List Header :=
  [⟨hostHeader, onWire "localhost"⟩, ⟨standardName, onWire "for=198.51.100.9"⟩]

theorem lower_names_unwritableSettings :
    [unwritableSettings.clientHeader, unwritableSettings.proxiesHeader, "X-Forwarded-Proto",
      "X-Forwarded-Host", "host", "forwarded"].map lower =
    ["x-forwarded-for", "x-i\u0307leten", "x-forwarded-proto", "x-forwarded-host", "host",
      "forwarded"] := by
  decide +kernel

/-- The header names of these settings differ from each other and from those of the host and of the
standard header. -/
theorem nodup_names_unwritableSettings :
    ([unwritableSettings.clientHeader, unwritableSettings.proxiesHeader, "X-Forwarded-Proto",
      "X-Forwarded-Host", "host", "forwarded"].map lower).Nodup := by
  rw [lower_names_unwritableSettings]
  decide

theorem separateHop_unreached :
    (prepare unwritableSettings nowhere (withHeaders hopRequest separateHop) {}).fault ≠ none := by
  intro reached
  have carries : Carries unwritableSettings (withHeaders hopRequest separateHop) separateHop
      ["198.51.100.9"] := ⟨rfl, by decide +kernel⟩
  have distinct : lower unwritableSettings.clientHeader ≠
      lower unwritableSettings.proxiesHeader := by
    have names := nodup_names_unwritableSettings
    simp only [List.map_cons, List.nodup_cons, List.mem_cons, not_or] at names
    exact names.1.1
  obtain ⟨name, named⟩ := exists_proxiesName_of_reached rfl distinct ⟨rfl, by decide +kernel⟩
    carries (by decide +kernel) reached
  have unnamed : (headerName unwritableSettings.proxiesHeader).isOk = false := by decide +kernel
  rw [named] at unnamed
  cases unnamed

/-- Under settings with such a name the dialects part: only the standard one reaches the
application, because the other has to write the header. -/
theorem dialects_part_over_unwritable_name :
    (unwritableSettings.standardHeaderOnly = false ∧ unwritableSettings.portHeader = none ∧
        unwritableSettings.protocolHeader = some "X-Forwarded-Proto" ∧
        unwritableSettings.hostHeader = some "X-Forwarded-Host") ∧
      ([unwritableSettings.clientHeader, unwritableSettings.proxiesHeader, "X-Forwarded-Proto",
        "X-Forwarded-Host", "host", "forwarded"].map lower).Nodup ∧
      IsProxied unwritableSettings hopRequest edgePeer ∧ IsLatin edgePeer.host ∧
      CarriesSeparately unwritableSettings separateHop oneHop none ∧
      CarriesTogether standardHop oneHop none ∧
      Headers.values separateHop hostHeader = Headers.values standardHop hostHeader ∧
      (prepare unwritableSettings nowhere (withHeaders hopRequest separateHop) {}).fault ≠ none ∧
      (prepare (inStandardDialect unwritableSettings) nowhere
        (withHeaders hopRequest standardHop) {}).fault = none := by
  refine ⟨⟨rfl, rfl, rfl, rfl⟩, nodup_names_unwritableSettings, ⟨rfl, by decide +kernel⟩,
    by decide, ?separately, ?together, by decide +kernel, separateHop_unreached, ?reached⟩
  case separately => constructor <;> decide +kernel
  case together => exact ⟨fun value => value, fun _ => Or.inl rfl, by decide +kernel⟩
  case reached => decide +kernel

end ForwardedClient.Middleware
