import ForwardedClient.Proofs.Chain.CommaList
import ForwardedClient.Proofs.Forwarded.DirectiveMap
import ForwardedClient.Proofs.Middleware.Preparation
import ForwardedClient.Proofs.Middleware.Resolution
import ForwardedClient.Proofs.Middleware.Restoration
import ForwardedClient.Proofs.Trust.Walk

/-!
Contract: what a client can do by writing into its chain header before the first proxy does.

Owns: the independence of the resolved client, of the proxies and of the look-ups from
everything that stands left of the text in which the client is found, in both dialects.

Does not own: scheme, server name and port, which the standard header also carries.
-/

namespace ForwardedClient.Middleware

open ForwardedClient.Forwarded
open ForwardedClient.Request
open ForwardedClient.Trust

/-- The values of a chain header that begins with anything at all and ends with a text: both in
one occurrence with a comma between them, or each in one of its own. -/
inductive Prefixed (forged text : String) : List String → Prop where
  | joined : Prefixed forged text [forged ++ "," ++ text]
  | separate : Prefixed forged text [forged, text]

section Prefixed

variable {settings : Settings} {forged text : String} {values : List String}

/-- Neither dialect lets a prefix reach into the chain of the text after it. -/
theorem readChain_of_prefixed (prefixed : Prefixed forged text values) :
    ∃ older, readChain settings values = older ++ readChain settings [text] := by
  unfold readChain
  cases dialect : settings.standardHeaderOnly with
  | true =>
      simp only [if_true]
      cases prefixed with
      | joined => exact ⟨_, DirectiveMap.values_read_append_comma forged text "for"⟩
      | separate => exact ⟨_, DirectiveMap.values_read_cons forged [text] "for"⟩
  | false =>
      simp only [Bool.false_eq_true, if_false]
      refine ⟨Chain.split (some forged), ?_⟩
      rw [Chain.read_eq_flatMap, Chain.read_eq_flatMap]
      cases prefixed with
      | joined => simp [Chain.split_append_comma]
      | separate => simp

/-- A walk that ends in the text is the same whatever stands before it. -/
theorem chainWalk_of_prefixed (prefixed : Prefixed forged text values)
    (exposed : ∃ entry ∈ readChain settings [text], settings.rules.isProxy entry = false)
    (peer : String) :
    ∃ older, chainWalk settings values peer =
      { chainWalk settings [text] peer with
        remaining := older ++ (chainWalk settings [text] peer).remaining } := by
  obtain ⟨older, chain⟩ := readChain_of_prefixed prefixed
  refine ⟨older, ?_⟩
  rw [chainWalk, chain]
  exact walk_append_of_exposed exposed older peer

end Prefixed

/-- What a request resolves to before its application runs: the client of its chain is the one
that is looked up, and the one that the application is shown. -/
theorem prepare_client {settings : Settings} {request : Request} {peer : Endpoint}
    {headers : List Header} {values : List String} {client : String}
    (proxied : IsProxied settings request peer)
    (carries : Carries settings request headers values)
    (resolved : (chainWalk settings values peer.host).client = some client) (lookup : Lookup)
    (world : World) :
    (prepare settings lookup request world).world.lookups =
        world.lookups ++ lookedUp settings (some client) ∧
      ((prepare settings lookup request world).fault = none →
        (prepare settings lookup request world).request.client = .value ⟨client, peer.port⟩) := by
  have ensured : Carries settings request.ensureState headers values := by
    rw [ensureState_eq]
    exact ⟨carries.listed, carries.found⟩
  obtain ⟨looked, addressed⟩ := resolve_client ensured world
  rw [resolved] at looked addressed
  refine ⟨(prepare_lookups proxied).trans looked, ?_⟩
  intro reached
  obtain ⟨overrides, after, _, written, resolution, accepts⟩ := prepare_reached proxied reached
  obtain ⟨_, published, ended, -, preparation⟩ := prepare_of_accepts proxied resolution accepts
  have address : overrides.remoteAddress = some client := by
    refine addressed overrides ?_
    rw [resolution]
  rw [preparation]
  show (request.ensureState.withClient overrides.remoteAddress).client = _
  have old : request.ensureState.client = .value peer :=
    (ensureState_client request).trans proxied.client
  simp only [address, withClient, old, Slot.get?]

/-- A forged prefix cannot change the resolved client. If the chain of a text has an entry that is
no known proxy, then two headers that end with that text, whatever they begin with, give the same
client and the same proxies, and requests that carry them look up that client and nobody else and
are seen by the application of their call as coming from it. -/
theorem forged_prefix_keeps_client (settings : Settings) (text : String) (peer : Endpoint)
    (exposed : ∃ entry ∈ readChain settings [text], settings.rules.isProxy entry = false)
    (forged other : String) (values others : List String)
    (prefixed : Prefixed forged text values) (prefixedOther : Prefixed other text others) :
    ∃ client,
      (chainWalk settings values peer.host).client = some client ∧
      (chainWalk settings others peer.host).client = some client ∧
      (chainWalk settings values peer.host).proxies =
        (chainWalk settings others peer.host).proxies ∧
      ∀ (lookup : Lookup) (world : World) (request : Request) (headers : List Header) (carried),
        carried = values ∨ carried = others →
        IsProxied settings request peer → Carries settings request headers carried →
        (prepare settings lookup request world).world.lookups =
            world.lookups ++ lookedUp settings (some client) ∧
          ((prepare settings lookup request world).fault = none →
            (prepare settings lookup request world).request.client =
                .value ⟨client, peer.port⟩ ∧
              ∀ application kind, request.kind = some kind → isHandledKind kind = true →
                handle settings lookup application request world =
                  finish (prepare settings lookup request world).view
                    (application (prepare settings lookup request world).request
                      (prepare settings lookup request world).world)) := by
  obtain ⟨client, stopped⟩ := exists_client_of_exposed exposed peer.host
  obtain ⟨older, walked⟩ := chainWalk_of_prefixed prefixed exposed peer.host
  obtain ⟨olderOther, walkedOther⟩ := chainWalk_of_prefixed prefixedOther exposed peer.host
  have found : (chainWalk settings values peer.host).client = some client := by
    rw [walked]
    exact stopped
  have foundOther : (chainWalk settings others peer.host).client = some client := by
    rw [walkedOther]
    exact stopped
  refine ⟨client, found, foundOther, ?_, ?_⟩
  · rw [walked, walkedOther]
  · intro lookup world request headers carried either proxied carries
    have resolved : (chainWalk settings carried peer.host).client = some client := by
      rcases either with same | same
      · rw [same, found]
      · rw [same, foundOther]
    obtain ⟨looked, shown⟩ := prepare_client proxied carries resolved lookup world
    exact ⟨looked, fun reached => ⟨shown reached, fun application kind handled known =>
      handle_of_reached handled known reached⟩⟩

theorem edgeRequest_client_of_any_prefix :
    (chainWalk edgeSettings ["192.0.2.1" ++ "," ++ " 198.51.100.7"] edgePeer.host).client =
        (chainWalk edgeSettings ["\"192.0.2.1;=", " 198.51.100.7"] edgePeer.host).client ∧
      (prepare edgeSettings nowhere edgeRequest {}).request.client.get?.map (·.host) =
        (chainWalk edgeSettings ["\"192.0.2.1;=", " 198.51.100.7"] edgePeer.host).client := by
  obtain ⟨client, found, foundOther, -, shown⟩ := forged_prefix_keeps_client edgeSettings
    " 198.51.100.7" edgePeer (by decide +kernel) "192.0.2.1" "\"192.0.2.1;=" _ _ .joined .separate
  have carries : Carries edgeSettings edgeRequest (edgeRequest.headers.getD [])
      ["192.0.2.1" ++ "," ++ " 198.51.100.7"] := ⟨rfl, by decide +kernel⟩
  obtain ⟨client, -⟩ := (shown nowhere {} edgeRequest _ _ (Or.inl rfl) edgeRequest_proxied
    carries).2 edgeRequest_reached
  refine ⟨found.trans foundOther.symm, ?_⟩
  rw [client, foundOther]
  rfl

end ForwardedClient.Middleware
