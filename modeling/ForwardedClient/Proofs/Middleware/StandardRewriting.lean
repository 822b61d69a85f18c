import ForwardedClient.Proofs.Forwarded.RoundTrip
import ForwardedClient.Proofs.Middleware.Restoration
import ForwardedClient.Proofs.Middleware.Rewriting
import ForwardedClient.Proofs.Middleware.Updates

/-!
Contract: the header that an application sees in the standard dialect.

Owns: the header after a walk, read back as the entries that were not reached, the proxies that
were crossed and the claims that came with them.

Does not own: claims that are acted upon, and `for` values that are no nodes, which may lose their
brackets on the way.
-/

namespace ForwardedClient.Middleware

open ForwardedClient.Forwarded
open ForwardedClient.Request
open ForwardedClient.Text
open ForwardedClient.Trust

theorem toList_unlessEmpty_write (map : DirectiveMap) :
    (unlessEmpty map.write).toList = map.occurrences := by
  unfold unlessEmpty DirectiveMap.occurrences
  split <;> rfl

/-! ### Nodes of a chain -/

section Nodes

variable {settings : Settings} {values : List String} {peer : String}

/-- The proxies of a walk along nodes are nodes that withhold nothing. -/
theorem isAccepted_of_mem_proxies (standard : settings.standardHeaderOnly = true)
    (nodes : ∀ value ∈ (DirectiveMap.read values).1.values "for", IsNode value)
    (bare : IsBareAddress peer) {address : String}
    (member : address ∈ (chainWalk settings values peer).proxies) :
    IsNode address ∧ IsAccepted "by" address := by
  have wellFormed := DirectiveMap.isWellFormed_read values
  have both : IsNode address ∧ isWithheld address = false := by
    rcases mem_readChain_of_mem_proxies member with crossed | ⟨-, same⟩
    · rw [readChain, if_pos standard] at crossed
      exact ⟨nodes address crossed,
        (wellFormed.isAccepted_of_mem_values crossed).given (by decide)⟩
    · exact same ▸ ⟨bare.isNode, bare.given⟩
  exact ⟨both.1, both.1.isAccepted (by decide) (by decide) both.2⟩

theorem isAccepted_of_mem_remaining (standard : settings.standardHeaderOnly = true)
    {address : String} (member : address ∈ (chainWalk settings values peer).remaining) :
    address ∈ (DirectiveMap.read values).1.values "for" ∧ IsAccepted "for" address := by
  have inChain := mem_readChain_of_mem_remaining member
  rw [readChain, if_pos standard] at inChain
  exact ⟨inChain, (DirectiveMap.isWellFormed_read values).isAccepted_of_mem_values inChain⟩

/-- After a walk along nodes from a bare address, the header states what the walk left. -/
theorem states_shorten (standard : settings.standardHeaderOnly = true)
    (nodes : ∀ value ∈ (DirectiveMap.read values).1.values "for", IsNode value)
    (bare : IsBareAddress peer) :
    let map := (DirectiveMap.read values).1
    let walked := chainWalk settings values peer
    States (shorten map walked).occurrences (leftAddresses map walked) walked.proxies
      (map.values "proto") (map.values "host") := by
  intro map walked
  have wellFormed : (shorten map walked).IsWellFormed :=
    isWellFormed_shorten (DirectiveMap.isWellFormed_read values)
      (fun _ member => (isAccepted_of_mem_proxies standard nodes bare member).2)
      (fun _ member => (isAccepted_of_mem_remaining standard member).2)
  have leftNodes : ∀ value ∈ (shorten map walked).values "for", IsNode value := by
    rw [values_shorten_for]
    unfold leftAddresses
    split
    · exact fun value member => nodes value (isAccepted_of_mem_remaining standard member).1
    · exact nodes
  have proxyNodes : ∀ value ∈ (shorten map walked).values "by", IsNode value := by
    rw [values_shorten_by]
    exact fun value member => (isAccepted_of_mem_proxies standard nodes bare member).1
  have states := DirectiveMap.states_occurrences wellFormed leftNodes proxyNodes
  rw [values_shorten_for, values_shorten_by, values_shorten_of_ne (by decide) (by decide),
    values_shorten_of_ne (by decide) (by decide)] at states
  exact states

end Nodes

/-- The standard header end to end. In the standard dialect, a request from a known proxy with a
bare address whose `for` values are nodes is shown to its application as follows. If the walk
along these values finds no client and crosses no proxy of the chain, the occurrences of the
header are as they came. Otherwise the header stands there once, or not at all if nothing is left
to state, and states the addresses that were not reached (all of them if no client was found), the
proxies, and the protocols and hosts that came with the request. The call runs the application on
that request. -/
theorem standard_rewriting (settings : Settings) (lookup : Lookup) (request : Request)
    (peer : Endpoint) (world : World) (headers : List Header) (values : List String)
    (standard : settings.standardHeaderOnly = true) (proxied : IsProxied settings request peer)
    (bare : IsBareAddress peer.host) (listed : request.headers = some headers)
    (found : headerValues headers Settings.standardHeader = .ok values)
    (nodes : ∀ value ∈ (DirectiveMap.read values).1.values "for", IsNode value)
    (reached : (prepare settings lookup request world).fault = none) :
    let prepared := prepare settings lookup request world
    (∀ application kind, request.kind = some kind → isHandledKind kind = true →
      handle settings lookup application request world =
        finish prepared.view (application prepared.request prepared.world)) ∧
    ∃ seen occurrences,
      prepared.request.headers = some seen ∧
      headerValues seen Settings.standardHeader = .ok occurrences ∧
      let map := (DirectiveMap.read values).1
      let walked := walk settings.rules (map.values "for") peer.host
      (walked.isResolved = false → walked.chainProxies = 0 → occurrences = values) ∧
      (walked.isResolved = true ∨ 0 < walked.chainProxies →
        States occurrences (if walked.isResolved then walked.remaining else map.values "for")
          walked.proxies (map.values "proto") (map.values "host")) := by
  intro prepared
  refine ⟨fun application kind handled known => handle_of_reached handled known reached, ?_⟩
  obtain ⟨came, carried, changed, seen, carries, rewritten, shown, -⟩ :=
    isRewritten_of_reached proxied reached
  have sameHeaders : came = headers := Option.some.inj (carries.listed.symm.trans listed)
  have chainFound := carries.found
  rw [chainHeader, if_pos standard, sameHeaders] at chainFound
  have sameValues : carried = values := Except.ok.inj (chainFound.symm.trans found)
  subst sameHeaders sameValues
  have updated := rewritten.updated
  rw [headerUpdates, if_pos standard] at updated
  have notHost : lower Settings.standardHeader ≠ "host" := by decide +kernel
  refine ⟨seen, Headers.values changed standardName, shown, ?_, ?_⟩
  · rw [rewritten.headerValues_eq notHost, headerValues, headerName_standard]
  · intro map walked
    have same : walked = chainWalk settings carried peer.host := by
      rw [chainWalk, readChain, if_pos standard]
    rw [same]
    refine ⟨?internal, ?crossed⟩
    case internal =>
      intro unresolved internal
      rw [standardUpdates_of_internal unresolved internal] at updated
      have kept : came = changed := congrArg Prod.fst updated
      rw [headerValues, headerName_standard, kept] at found
      exact Except.ok.inj found
    case crossed =>
      intro crossed
      rw [standardUpdates_of_crossed crossed] at updated
      obtain ⟨name, named, written⟩ := Headers.values_assignAll_cons (by simp) updated
      have isStandard : name = standardName :=
        Except.ok.inj (named.symm.trans headerName_standard)
      rw [isStandard, toList_unlessEmpty_write] at written
      rw [written]
      exact states_shorten standard nodes bare

theorem readable_mesh : (Pattern.Node.read "2001:db8::.*").isOk = true := by decide +kernel

/-- Settings under which the proxies of a network are trusted. -/
def meshSettings : Settings :=
  { standardSettings with
    trustedProxies := Settings.ProxyPattern.ofReadable "2001:db8::.*" readable_mesh }

def meshPeer : Endpoint := ⟨"2001:db8::1", some 4000⟩

/-- A request that came through that network, with its chain in two occurrences of the header. -/
def meshRequest : Request :=
  { kind := some "http"
    headers := some
      [⟨onWire "forwarded", onWire "for=198.51.100.9;host=\"2001:db8::a:8080\""⟩,
        ⟨onWire "accept", onWire "text/html"⟩,
        ⟨onWire "forwarded",
          onWire "for=203.0.113.7;by=forged;proto=https, for=\"[2001:db8::2]:4711\""⟩]
    client := .value meshPeer }

theorem meshRequest_rewriting :
    ∃ seen occurrences,
      (prepare meshSettings nowhere meshRequest {}).request.headers = some seen ∧
      headerValues seen Settings.standardHeader = .ok occurrences ∧
      States occurrences ["198.51.100.9"] ["2001:db8::2:4711", "2001:db8::1"] ["https"]
        ["2001:db8::a:8080"] := by
  have found : headerValues (meshRequest.headers.getD []) Settings.standardHeader =
      .ok ["for=198.51.100.9;host=\"2001:db8::a:8080\"",
        "for=203.0.113.7;by=forged;proto=https, for=\"[2001:db8::2]:4711\""] := by
    decide +kernel
  have map : ∃ map, (DirectiveMap.read ["for=198.51.100.9;host=\"2001:db8::a:8080\"",
      "for=203.0.113.7;by=forged;proto=https, for=\"[2001:db8::2]:4711\""]).1 = map ∧
        map.values "for" = ["198.51.100.9", "203.0.113.7", "2001:db8::2:4711"] ∧
        map.values "proto" = ["https"] ∧ map.values "host" = ["2001:db8::a:8080"] :=
    ⟨_, rfl, by decide +kernel⟩
  obtain ⟨map, read, addresses, protocols, hosts⟩ := map
  have nodes : ∀ value ∈ map.values "for", IsNode value := by
    have first : IsNode "198.51.100.9" := (IsBareAddress.ipv4 (by decide)).isNode
    have second : IsNode "203.0.113.7" := (IsBareAddress.ipv4 (by decide)).isNode
    have third : IsNode "2001:db8::2:4711" :=
      .ipv6 "2001:db8::2".toList (some "4711".toList) rfl ⟨by decide, by decide⟩
        (by rintro text ⟨⟩; decide)
    simp [addresses, first, second, third]
  have bare : IsBareAddress meshPeer.host := .ipv6 ⟨by decide, by decide⟩
  have reached : (prepare meshSettings nowhere meshRequest {}).fault = none := by decide +kernel
  obtain ⟨-, seen, occurrences, shown, stands, -, crossed⟩ := standard_rewriting meshSettings
    nowhere meshRequest meshPeer {} _ _ rfl ⟨rfl, by decide +kernel⟩ bare rfl found (read ▸ nodes) reached
  have walked : walk meshSettings.rules ["198.51.100.9", "203.0.113.7", "2001:db8::2:4711"]
      meshPeer.host = ⟨some "203.0.113.7", ["2001:db8::2:4711", "2001:db8::1"],
        ["198.51.100.9"], 1⟩ := by decide +kernel
  rw [read, addresses, protocols, hosts, walked] at crossed
  exact ⟨seen, occurrences, shown, stands, crossed (Or.inl rfl)⟩

end ForwardedClient.Middleware
