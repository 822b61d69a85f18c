import ForwardedClient.Proofs.Middleware.Restoration
import ForwardedClient.Proofs.Middleware.Rewriting
import ForwardedClient.Proofs.Middleware.Updates
import ForwardedClient.Proofs.Request.ServerName

/-!
Contract: the headers that are no business of the middleware.

Owns: the names that the settings let a view change, what is left of a header list without them,
and that this reaches an application as it came: the same headers in the same order, however often
each of them stands there.

Does not own: what becomes of the headers of those names, and of a host header that is written.
-/

namespace ForwardedClient.Middleware

open ForwardedClient.Forwarded
open ForwardedClient.Request
open ForwardedClient.Text

/-! ### Managed names -/

/-- A name that the settings let a view change, as it stands on the wire: in lower case. -/
def IsManaged (settings : Settings) (name : LatinText) : Prop :=
  ∃ title ∈ settings.managedHeaders, name.text = lower title

instance (settings : Settings) (name : LatinText) : Decidable (IsManaged settings name) :=
  inferInstanceAs (Decidable (∃ title ∈ settings.managedHeaders, name.text = lower title))

/-- A header list without the headers of managed names. -/
def unmanaged (settings : Settings) (headers : List Header) : List Header :=
  headers.filter fun header => ¬ IsManaged settings header.name

section Unmanaged

variable {settings : Settings} {headers changed seen : List Header}

/-- In both dialects only headers that the settings name are updated. -/
theorem title_mem_managedHeaders {values : List String} {walk : Trust.Walk}
    {update : String × Option String} (member : update ∈ headerUpdates settings values walk) :
    update.1 ∈ settings.managedHeaders := by
  unfold headerUpdates at member
  unfold Settings.managedHeaders
  split at member
  · rename_i standard
    rw [if_pos standard, mem_standardUpdates member]
    exact List.mem_singleton_self _
  · rename_i separate
    rw [if_neg separate]
    exact List.mem_pair.mpr (mem_chainUpdates member)

/-- The updates of a walk leave the unmanaged headers alone, where they stand. -/
theorem unmanaged_assignAll {values : List String} {walk : Trust.Walk}
    (assigned : Headers.assignAll headers (headerUpdates settings values walk) = (changed, none)) :
    unmanaged settings changed = unmanaged settings headers := by
  refine Headers.filter_assignAll (fun name => ¬ IsManaged settings name) ?_ assigned
  intro update member name named
  have managed : IsManaged settings name :=
    ⟨update.1, title_mem_managedHeaders member, text_of_headerName named⟩
  exact decide_eq_false fun unmanaged => unmanaged managed

theorem erase_unmanaged (settings : Settings) (headers : List Header) (name : LatinText) :
    Headers.erase (unmanaged settings headers) name =
      unmanaged settings (Headers.erase headers name) := by
  unfold Headers.erase unmanaged
  rw [List.filter_filter, List.filter_filter]
  exact List.filter_congr fun header _ => Bool.and_comm _ _

/-- A host header that is written touches no header but those of that name. -/
theorem erase_unmanaged_writeHost {host : Option String}
    (hosted : Headers.writeHost changed host = .ok seen) :
    Headers.erase (unmanaged settings seen) hostHeader =
      Headers.erase (unmanaged settings changed) hostHeader := by
  have elsewhere : Headers.erase seen hostHeader = Headers.erase changed hostHeader :=
    Headers.filter_writeHost (· ≠ hostHeader) (by simp) hosted
  rw [erase_unmanaged, erase_unmanaged, elsewhere]

end Unmanaged

/-! ### Requests that reach their application -/

section Reached

variable {settings : Settings} {lookup : Lookup} {request : Request} {peer : Endpoint}
  {world : World} {headers seen : List Header}

/-- A request from a proxy is shown with its unmanaged headers, apart from those of the host, which
stay as well if its overrides give neither name nor port. -/
theorem unmanaged_of_isProxied (proxied : IsProxied settings request peer)
    (reached : (prepare settings lookup request world).fault = none)
    (listed : request.headers = some headers)
    (shown : (prepare settings lookup request world).request.headers = some seen) :
    ∃ overrides,
      ((resolve settings lookup request peer.host).run world).1 = .ok overrides ∧
      Headers.erase (unmanaged settings seen) hostHeader =
        Headers.erase (unmanaged settings headers) hostHeader ∧
      (overrides.serverName = none → overrides.serverPort = none →
        unmanaged settings seen = unmanaged settings headers) := by
  obtain ⟨overrides, resolved, came, written, resolution, accepts⟩ :=
    prepare_reached proxied reached
  obtain ⟨_, _, _, -, preparation⟩ := prepare_of_accepts proxied resolution accepts
  obtain ⟨_, values, claims, -, same⟩ := overrides_of_resolve resolution
  obtain ⟨changed, updated, hosted⟩ := accepts.assigned
  have cameHeaders : came = headers := by
    have ensured := accepts.listed
    rw [ensureState_eq] at ensured
    exact Option.some.inj (ensured.symm.trans listed)
  have writtenSeen : written = seen := by
    rw [preparation] at shown
    exact Option.some.inj shown
  subst cameHeaders writtenSeen
  have unchanged : unmanaged settings changed = unmanaged settings came := by
    rw [same] at updated
    exact unmanaged_assignAll updated
  refine ⟨overrides, ?_, ?_, fun unnamed unported => ?_⟩
  · have sameHeaders : request.ensureState.headers = request.headers := by rw [ensureState_eq]
    rw [← resolve_of_headers settings lookup sameHeaders, resolution]
  · rw [erase_unmanaged_writeHost hosted, unchanged]
  · rw [Overrides.hostHeader?_of_silent unnamed unported] at hosted
    rw [← Except.ok.inj hosted, unchanged]

/-- Whoever passed it on, a request is shown with its unmanaged headers, apart from those of the
host. -/
theorem unmanaged_of_reached (reached : (prepare settings lookup request world).fault = none) :
    ∃ headers seen, request.headers = some headers ∧
      (prepare settings lookup request world).request.headers = some seen ∧
      Headers.erase (unmanaged settings seen) hostHeader =
        Headers.erase (unmanaged settings headers) hostHeader := by
  rcases isProxied_or_isDirect settings request with ⟨peer, proxied⟩ | direct
  · obtain ⟨headers, _, _, seen, carries, -, shown, -⟩ := isRewritten_of_reached proxied reached
    obtain ⟨_, -, others, -⟩ := unmanaged_of_isProxied proxied reached carries.listed shown
    exact ⟨headers, seen, carries.listed, shown, others⟩
  · obtain ⟨headers, listed⟩ := listed_of_isDirect direct reached
    refine ⟨headers, headers, listed, ?_, rfl⟩
    rw [prepare_request_of_isDirect direct reached]
    exact listed

end Reached

/-- Headers that pass through. Whatever is handed on is handed on with a header list that differs
from the one that came in nothing but the headers of managed names and those of the host. The
headers of the host stay as they are too, in their places among the others, if neither a server name
nor a port was derived, unless they are themselves managed. Of a request that no proxy passed on
nothing but the state is changed. -/
theorem unmanaged_headers_pass_through (settings : Settings) (lookup : Lookup)
    (application : Application) (request : Request) (world : World) (kind : String)
    (handled : request.kind = some kind) (known : isHandledKind kind = true)
    (reached : (prepare settings lookup request world).fault = none) :
    let prepared := prepare settings lookup request world
    handle settings lookup application request world =
        finish prepared.view (application prepared.request prepared.world) ∧
      (∃ headers seen, request.headers = some headers ∧
        prepared.request.headers = some seen ∧
        Headers.erase (unmanaged settings seen) hostHeader =
          Headers.erase (unmanaged settings headers) hostHeader ∧
        ∀ peer, IsProxied settings request peer →
          ∃ overrides,
            ((resolve settings lookup request peer.host).run world).1 = .ok overrides ∧
            (overrides.serverName = none → overrides.serverPort = none →
              unmanaged settings seen = unmanaged settings headers)) ∧
      (IsDirect settings request →
        prepared.request = { request with state := prepared.request.state }) := by
  intro prepared
  obtain ⟨headers, seen, listed, shown, others⟩ := unmanaged_of_reached reached
  refine ⟨handle_of_reached handled known reached,
    ⟨headers, seen, listed, shown, others, fun peer proxied => ?_⟩,
    fun direct => prepare_request_of_isDirect direct reached⟩
  obtain ⟨overrides, resolution, -, silent⟩ :=
    unmanaged_of_isProxied proxied reached listed shown
  exact ⟨overrides, resolution, silent⟩

/-- A request in which headers are repeated and one has the name of the chain in capitals, under
which no header is looked up. -/
def crowdedRequest : Request :=
  { edgeRequest with
    headers := some
      [⟨onWire "accept", onWire "text/html"⟩,
        ⟨onWire "x-forwarded-for", onWire "192.0.2.1, 198.51.100.7"⟩,
        ⟨onWire "X-Forwarded-For", onWire "203.0.113.7"⟩,
        ⟨hostHeader, onWire "edge.example"⟩,
        ⟨onWire "x-forwarded-by", onWire "forged"⟩,
        ⟨onWire "accept", onWire "text/html"⟩,
        ⟨hostHeader, onWire "other.example"⟩] }

theorem crowdedRequest_passes_through :
    ∃ seen, (prepare edgeSettings nowhere crowdedRequest {}).request.headers = some seen ∧
      unmanaged edgeSettings seen =
        [⟨onWire "accept", onWire "text/html"⟩,
          ⟨onWire "X-Forwarded-For", onWire "203.0.113.7"⟩,
          ⟨hostHeader, onWire "edge.example"⟩,
          ⟨onWire "accept", onWire "text/html"⟩,
          ⟨hostHeader, onWire "other.example"⟩] := by
  obtain ⟨-, ⟨headers, seen, listed, shown, -, derived⟩, -⟩ :=
    unmanaged_headers_pass_through edgeSettings nowhere (run nowhere []) crowdedRequest {} "http"
      rfl (by decide +kernel) (by decide +kernel)
  obtain ⟨overrides, resolution, silent⟩ := derived edgePeer ⟨rfl, by decide +kernel⟩
  have unclaimed : (((resolve edgeSettings nowhere crowdedRequest edgePeer.host).run {}).1.map
      fun overrides => (overrides.serverName, overrides.serverPort)).toOption =
        some (none, none) := by
    decide +kernel
  rw [resolution] at unclaimed
  injection unclaimed with unclaimed
  injection unclaimed with unnamed unported
  refine ⟨seen, shown, ?_⟩
  rw [silent unnamed unported, ← Option.some.inj listed]
  decide +kernel

end ForwardedClient.Middleware
