import ForwardedClient.Proofs.Middleware.Preparation
import ForwardedClient.Proofs.Middleware.Resolution
import ForwardedClient.Proofs.Request.ServerName

/-!
Contract: the client and the headers that an application is shown of a request from a known
proxy.

Owns: both in terms of the walk along the chain of the request, for either dialect, and the
headers that no update touches.

Does not own: what the updates of one dialect make of its chain headers.
-/

namespace ForwardedClient.Middleware

open ForwardedClient.Request
open ForwardedClient.Text

/-- What becomes of a header list before the application sees it: the chain headers are updated,
and then a host header may be written. -/
structure IsRewritten (settings : Settings) (values : List String) (peer : String)
    (headers changed seen : List Header) : Prop where
  updated : Headers.assignAll headers
    (headerUpdates settings values (chainWalk settings values peer)) = (changed, none)
  hosted : ∃ host, Headers.writeHost changed host = .ok seen

section Rewritten

variable {settings : Settings} {lookup : Lookup} {request : Request} {peer : Endpoint}
  {world : World}

/-- A request that reaches its application is shown with the client of the walk, or its own if
there is none, and with rewritten headers. -/
theorem isRewritten_of_reached (proxied : IsProxied settings request peer)
    (reached : (prepare settings lookup request world).fault = none) :
    ∃ headers values changed seen,
      Carries settings request headers values ∧
      IsRewritten settings values peer.host headers changed seen ∧
      (prepare settings lookup request world).request.headers = some seen ∧
      (prepare settings lookup request world).request.client =
        (request.withClient (chainWalk settings values peer.host).client).client := by
  obtain ⟨overrides, resolved, headers, seen, resolution, accepts⟩ :=
    prepare_reached proxied reached
  obtain ⟨_, values, claims, carries, same⟩ := overrides_of_resolve resolution
  obtain ⟨_, _, _, -, preparation⟩ := prepare_of_accepts proxied resolution accepts
  have listed := accepts.listed
  have sameHeaders := Option.some.inj (carries.listed.symm.trans listed)
  obtain ⟨changed, updated, hosted⟩ := accepts.assigned
  rw [ensureState_eq] at listed
  rw [same] at updated
  refine ⟨headers, values, changed, seen, ⟨listed, sameHeaders ▸ carries.found⟩,
    ⟨updated, _, hosted⟩, ?_, ?_⟩
  · rw [preparation]
    rfl
  · rw [preparation, same, ensureState_eq]
    cases client : (chainWalk settings values peer.host).client <;>
      simp only [ForwardedView.enteredRequest, overridesOf, client, withClient]

end Rewritten

section Values

variable {settings : Settings} {values : List String} {peer : String}
  {headers changed seen : List Header}

/-- A header that is not the host header is shown as the updates leave it. -/
theorem IsRewritten.values_eq (rewritten : IsRewritten settings values peer headers changed seen)
    {name : LatinText} (differ : hostHeader ≠ name) :
    Headers.values seen name = Headers.values changed name := by
  obtain ⟨host, hosted⟩ := rewritten.hosted
  exact Headers.values_writeHost_of_ne differ hosted

theorem IsRewritten.headerValues_eq
    (rewritten : IsRewritten settings values peer headers changed seen) {name : String}
    (notHost : lower name ≠ "host") : headerValues seen name = headerValues changed name := by
  unfold headerValues
  cases named : headerName name with
  | error cause => rfl
  | ok bytes =>
      have differ : hostHeader ≠ bytes := by
        intro same
        exact notHost (same ▸ text_of_headerName named).symm
      simp only [rewritten.values_eq differ]

/-- A header that neither an update nor the host header writes is shown as it came. -/
theorem IsRewritten.headerValues_of_untouched
    (rewritten : IsRewritten settings values peer headers changed seen) {name : String}
    (notHost : lower name ≠ "host")
    (untouched : ∀ update ∈ headerUpdates settings values (chainWalk settings values peer),
      lower update.1 ≠ lower name) :
    headerValues seen name = headerValues headers name := by
  rw [rewritten.headerValues_eq notHost]
  unfold headerValues
  cases named : headerName name with
  | error cause => rfl
  | ok bytes =>
      have differ : ∀ update ∈ headerUpdates settings values (chainWalk settings values peer),
          headerName update.1 ≠ .ok bytes := by
        intro update member
        exact headerName_ne (text_of_headerName named ▸ untouched update member)
      simp only [Headers.values_assignAll_of_ne differ rewritten.updated]

end Values

end ForwardedClient.Middleware
