import ForwardedClient.Proofs.Chain.CommaList
import ForwardedClient.Proofs.Middleware.Restoration
import ForwardedClient.Proofs.Middleware.Rewriting
import ForwardedClient.Proofs.Middleware.Updates

/-!
Contract: the chain headers that an application sees in the dialect of separate headers.

Owns: the two headers after a walk, read back as the entries that were not reached and the proxies
that were crossed, each in one occurrence or in none.

Does not own: claims, and settings under which both chains share a header or take the host header.
-/

namespace ForwardedClient.Middleware

open ForwardedClient.Request
open ForwardedClient.Text
open ForwardedClient.Trust

/-! ### A chain in one header -/

/-- A header list in which a header spells a chain: in one occurrence, or in none if the chain has
no entries. -/
def Spells (headers : List Header) (name : String) (chain : List String) : Prop :=
  ∃ values, headerValues headers name = .ok values ∧ Chain.read values = chain ∧
    values.length = if chain.isEmpty then 0 else 1

theorem unlessEmpty_of_ne {value : String} (filled : value ≠ "") :
    unlessEmpty value = some value := by
  have visible : ¬ value.isEmpty = true := by
    rw [String.isEmpty_iff]
    exact filled
  rw [unlessEmpty, if_neg visible]

theorem spells_of_written {headers : List Header} {title : String} {name : LatinText}
    {chain : List String} (named : headerName title = .ok name)
    (entries : ∀ entry ∈ chain, Chain.IsEntry entry)
    (written : Headers.values headers name = (unlessEmpty (Chain.write chain)).toList) :
    Spells headers title chain := by
  refine ⟨Headers.values headers name, by rw [headerValues, named], ?_⟩
  rw [written]
  cases chain with
  | nil => exact ⟨rfl, rfl⟩
  | cons entry rest =>
      have filled := Chain.write_ne_empty entries (List.cons_ne_nil entry rest)
      rw [unlessEmpty_of_ne filled]
      exact ⟨Chain.read_write entries, rfl⟩

/-- A chain that is written into a header is spelled by it, if nothing is written over it. -/
theorem spells_of_assignAll {headers changed : List Header} {title : String}
    {chain : List String} {updates : List (String × Option String)}
    (entries : ∀ entry ∈ chain, Chain.IsEntry entry)
    (last : ∀ update ∈ updates, lower update.1 ≠ lower title)
    (assigned : Headers.assignAll headers ((title, unlessEmpty (Chain.write chain)) :: updates) =
      (changed, none)) : Spells changed title chain := by
  obtain ⟨name, named, written⟩ := Headers.values_assignAll_cons last assigned
  exact spells_of_written named entries written

theorem Spells.of_isRewritten {settings : Settings} {values : List String} {peer : String}
    {headers changed seen : List Header} {name : String} {chain : List String}
    (spells : Spells changed name chain)
    (rewritten : IsRewritten settings values peer headers changed seen)
    (notHost : lower name ≠ "host") : Spells seen name chain := by
  obtain ⟨written, found, spelled⟩ := spells
  exact ⟨written, (rewritten.headerValues_eq notHost).trans found, spelled⟩

/-! ### The headers after a walk -/

section Rewritten

variable {settings : Settings} {values : List String} {peer : String}
  {headers changed seen : List Header} (separate : settings.standardHeaderOnly = false)
  (rewritten : IsRewritten settings values peer headers changed seen)

theorem headerUpdates_of_separate (separate : settings.standardHeaderOnly = false)
    (values : List String) (walk : Walk) :
    headerUpdates settings values walk = chainUpdates settings walk := by
  rw [headerUpdates, if_neg (by simp [separate])]

include separate in
theorem isEntry_of_mem_readChain {entry : String} (member : entry ∈ readChain settings values) :
    Chain.IsEntry entry := by
  rw [readChain, if_neg (by simp [separate])] at member
  exact Chain.isEntry_of_mem_read member

include separate in
theorem isEntry_of_mem_proxies (isEntry : Chain.IsEntry peer) {entry : String}
    (member : entry ∈ (chainWalk settings values peer).proxies) : Chain.IsEntry entry := by
  rcases mem_readChain_of_mem_proxies member with crossed | ⟨-, same⟩
  · exact isEntry_of_mem_readChain separate crossed
  · exact same ▸ isEntry

include separate in
theorem isEntry_of_mem_remaining {entry : String}
    (member : entry ∈ (chainWalk settings values peer).remaining) : Chain.IsEntry entry :=
  isEntry_of_mem_readChain separate (mem_readChain_of_mem_remaining member)

include separate rewritten in
/-- If the client is found both headers spell their part of the walk. -/
theorem spells_of_resolved (distinct : lower settings.clientHeader ≠ lower settings.proxiesHeader)
    (clientNotHost : lower settings.clientHeader ≠ "host")
    (proxiesNotHost : lower settings.proxiesHeader ≠ "host") (isEntry : Chain.IsEntry peer)
    (resolved : (chainWalk settings values peer).isResolved = true) :
    Spells seen settings.clientHeader (chainWalk settings values peer).remaining ∧
      Spells seen settings.proxiesHeader (chainWalk settings values peer).proxies := by
  have updated := rewritten.updated
  rw [headerUpdates_of_separate separate, chainUpdates_of_resolved distinct resolved] at updated
  obtain ⟨next, _, later⟩ := Headers.assign_of_assignAll_cons updated
  have proxies : Spells changed settings.proxiesHeader (chainWalk settings values peer).proxies :=
    spells_of_assignAll (fun _ => isEntry_of_mem_proxies separate isEntry)
      (by simpa using distinct) updated
  have remaining : Spells changed settings.clientHeader
      (chainWalk settings values peer).remaining :=
    spells_of_assignAll (fun _ => isEntry_of_mem_remaining separate) (by simp) later
  exact ⟨remaining.of_isRewritten rewritten clientNotHost,
    proxies.of_isRewritten rewritten proxiesNotHost⟩

include separate rewritten in
/-- If all of a chain is trusted the proxies header spells who was crossed. -/
theorem spells_of_crossed (proxiesNotHost : lower settings.proxiesHeader ≠ "host")
    (isEntry : Chain.IsEntry peer)
    (unresolved : (chainWalk settings values peer).isResolved = false)
    (crossed : 0 < (chainWalk settings values peer).chainProxies) :
    Spells seen settings.proxiesHeader (chainWalk settings values peer).proxies := by
  have updated := rewritten.updated
  have entries : ∀ entry ∈ (chainWalk settings values peer).proxies, Chain.IsEntry entry :=
    fun _ => isEntry_of_mem_proxies separate isEntry
  have filled := Chain.write_ne_empty entries (proxies_ne_nil crossed)
  rw [headerUpdates_of_separate separate, chainUpdates_of_crossed unresolved crossed,
    ← unlessEmpty_of_ne filled] at updated
  exact (spells_of_assignAll entries (by simp) updated).of_isRewritten rewritten proxiesNotHost

include separate rewritten in
/-- Without a client the client header stays, whether proxies were crossed or not. -/
theorem clientHeader_of_unresolved
    (distinct : lower settings.clientHeader ≠ lower settings.proxiesHeader)
    (clientNotHost : lower settings.clientHeader ≠ "host")
    (unresolved : (chainWalk settings values peer).isResolved = false) :
    headerValues seen settings.clientHeader = headerValues headers settings.clientHeader := by
  refine rewritten.headerValues_of_untouched clientNotHost fun update member => ?_
  rw [headerUpdates_of_separate separate] at member
  rcases Nat.eq_zero_or_pos (chainWalk settings values peer).chainProxies with internal | crossed
  · rw [chainUpdates_of_internal unresolved internal] at member
    exact absurd member List.not_mem_nil
  · rw [chainUpdates_of_crossed unresolved crossed] at member
    rw [List.mem_singleton.mp member]
    exact Ne.symm distinct

include separate rewritten in
theorem proxiesHeader_of_internal (proxiesNotHost : lower settings.proxiesHeader ≠ "host")
    (unresolved : (chainWalk settings values peer).isResolved = false)
    (internal : (chainWalk settings values peer).chainProxies = 0) :
    headerValues seen settings.proxiesHeader = headerValues headers settings.proxiesHeader := by
  refine rewritten.headerValues_of_untouched proxiesNotHost ?_
  rw [headerUpdates_of_separate separate, chainUpdates_of_internal unresolved internal]
  simp

end Rewritten

/-- Separate headers end to end. In the dialect of separate headers, if the two chain headers and
the host header have different names, a request from a known proxy whose address is an entry of a
chain is shown to its application as follows. If the walk along the chain of all occurrences of
the client header finds a client, the request has that address and its own port, the client header
spells the entries that were not reached and the proxies header spells the proxies. If it does
not, client and client header are as they were, and the proxies header is as it was unless proxies
of the chain were crossed, which it then spells. The call runs the application on that request. -/
theorem separate_rewriting (settings : Settings) (lookup : Lookup) (request : Request)
    (peer : Endpoint) (world : World) (separate : settings.standardHeaderOnly = false)
    (distinct : lower settings.clientHeader ≠ lower settings.proxiesHeader)
    (clientNotHost : lower settings.clientHeader ≠ "host")
    (proxiesNotHost : lower settings.proxiesHeader ≠ "host")
    (proxied : IsProxied settings request peer) (isEntry : Chain.IsEntry peer.host)
    (reached : (prepare settings lookup request world).fault = none) :
    let prepared := prepare settings lookup request world
    (∀ application kind, request.kind = some kind → isHandledKind kind = true →
      handle settings lookup application request world =
        finish prepared.view (application prepared.request prepared.world)) ∧
    ∃ headers values seen,
      request.headers = some headers ∧ headerValues headers settings.clientHeader = .ok values ∧
      prepared.request.headers = some seen ∧
      let walked := walk settings.rules (Chain.read values) peer.host
      let shown := prepared.request
      (∀ address, walked.client = some address →
        shown.client = .value ⟨address, peer.port⟩ ∧
          Spells seen settings.clientHeader walked.remaining ∧
          Spells seen settings.proxiesHeader walked.proxies) ∧
      (walked.client = none →
        shown.client = request.client ∧
          headerValues seen settings.clientHeader = headerValues headers settings.clientHeader ∧
          (0 < walked.chainProxies → Spells seen settings.proxiesHeader walked.proxies) ∧
          (walked.chainProxies = 0 → headerValues seen settings.proxiesHeader =
            headerValues headers settings.proxiesHeader)) := by
  intro prepared
  refine ⟨fun application kind handled known => handle_of_reached handled known reached, ?_⟩
  obtain ⟨headers, values, changed, seen, carries, rewritten, listed, client⟩ :=
    isRewritten_of_reached proxied reached
  have notStandard : ¬ settings.standardHeaderOnly = true := by simp [separate]
  have found := carries.found
  rw [chainHeader, if_neg notStandard] at found
  refine ⟨headers, values, seen, carries.listed, found, listed, ?_⟩
  have same : walk settings.rules (Chain.read values) peer.host =
      chainWalk settings values peer.host := by
    rw [chainWalk, readChain, if_neg notStandard]
  rw [same]
  refine ⟨?found, ?missing⟩
  case found =>
    intro address isClient
    have resolved : (chainWalk settings values peer.host).isResolved = true := by
      rw [Walk.isResolved, isClient]
      rfl
    obtain ⟨remaining, proxies⟩ := spells_of_resolved separate rewritten distinct clientNotHost
      proxiesNotHost isEntry resolved
    refine ⟨?_, remaining, proxies⟩
    rw [client, isClient, withClient, proxied.client]
    rfl
  case missing =>
    intro missing
    have unresolved : (chainWalk settings values peer.host).isResolved = false := by
      rw [Walk.isResolved, missing]
      rfl
    exact ⟨by rw [client, missing, withClient],
      clientHeader_of_unresolved separate rewritten distinct clientNotHost unresolved,
      spells_of_crossed separate rewritten proxiesNotHost isEntry unresolved,
      proxiesHeader_of_internal separate rewritten proxiesNotHost unresolved⟩

theorem readable_relay : (Pattern.Node.read "relay[0-9]").isOk = true := by decide +kernel

/-- Settings under which some proxies outside are trusted. -/
def relaySettings : Settings :=
  { edgeSettings with
    trustedProxies := Settings.ProxyPattern.ofReadable "relay[0-9]" readable_relay }

/-- A request that came through two trusted proxies, with its chain in two headers. -/
def relayRequest : Request :=
  { kind := some "http"
    headers := some
      [⟨onWire "x-forwarded-for", onWire "198.51.100.9 ,, 203.0.113.7"⟩,
        ⟨onWire "x-forwarded-by", onWire "forged"⟩,
        ⟨hostHeader, onWire "edge.example"⟩,
        ⟨onWire "x-forwarded-for", onWire "relay1,relay2"⟩]
    client := .value edgePeer }

theorem isEntry_edgePeer : Chain.IsEntry edgePeer.host where
  filled := by decide
  noComma := by
    have absent : edgePeer.host.toList.all (· != ',') = true := by decide
    simpa using List.all_eq_true.mp absent
  trimmed := by decide

theorem relayRequest_rewriting :
    ∃ seen, (prepare relaySettings nowhere relayRequest {}).request.headers = some seen ∧
      (prepare relaySettings nowhere relayRequest {}).request.client =
        .value ⟨"203.0.113.7", some 4000⟩ ∧
      Spells seen "X-Forwarded-For" ["198.51.100.9"] ∧
      Spells seen "X-Forwarded-By" ["relay1", "relay2"] := by
  have reached : (prepare relaySettings nowhere relayRequest {}).fault = none := by decide +kernel
  obtain ⟨-, headers, values, seen, listed, found, shown, resolved, -⟩ := separate_rewriting
    relaySettings nowhere relayRequest edgePeer {} rfl (by decide +kernel) (by decide +kernel)
    (by decide +kernel) ⟨rfl, by decide +kernel⟩ isEntry_edgePeer reached
  have carried : headerValues (relayRequest.headers.getD []) "X-Forwarded-For" =
      .ok ["198.51.100.9 ,, 203.0.113.7", "relay1,relay2"] := by decide +kernel
  rw [listed] at carried
  have same := Except.ok.inj (found.symm.trans carried)
  have walked : walk relaySettings.rules
      (Chain.read ["198.51.100.9 ,, 203.0.113.7", "relay1,relay2"]) edgePeer.host =
        ⟨some "203.0.113.7", ["relay1", "relay2"], ["198.51.100.9"], 2⟩ := by decide +kernel
  rw [same, walked] at resolved
  exact ⟨seen, shown, resolved "203.0.113.7" rfl⟩

end ForwardedClient.Middleware
