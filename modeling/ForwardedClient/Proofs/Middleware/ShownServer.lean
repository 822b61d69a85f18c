import ForwardedClient.Proofs.Middleware.Preparation
import ForwardedClient.Proofs.Middleware.Resolution
import ForwardedClient.Proofs.Middleware.ServerClaims
import ForwardedClient.Proofs.Middleware.Updates
import ForwardedClient.Proofs.Request.Encoding

/-!
Contract: what an application is shown of scheme, server name and port when its request carries
one standard header.

Owns: the value of what is shown, as a function of the claims of the header and of the request
without it, and the exact condition under which the request is shown at all.

Does not own: how a header comes to its claims, or two headers compared.
-/

namespace ForwardedClient.Middleware

open ForwardedClient.Address
open ForwardedClient.Forwarded
open ForwardedClient.Request
open ForwardedClient.Text
open ForwardedClient.Trust

/-! ### The standard header on the wire -/

/-- A request with one occurrence of the standard header. -/
def withStandard (request : Request) (value : LatinText) : Request :=
  { request with headers := some (Headers.set (request.headers.getD []) standardName value) }

/-- A text, a comma and another text. -/
def beforeComma (left right : LatinText) : LatinText where
  text := left.text ++ "," ++ right.text
  latin := List.all_eq_true.mpr
    (isLatin_append.mpr ⟨isLatin_append.mpr ⟨left.isLatin_text, by decide⟩, right.isLatin_text⟩)

theorem ensureState_withStandard (request : Request) (value : LatinText) :
    (withStandard request value).ensureState = withStandard request.ensureState value := by
  unfold withStandard ensureState
  split <;> rfl

section Standard

variable {settings : Settings} {request : Request} {value : LatinText}

theorem carries_withStandard (standard : settings.standardHeaderOnly = true) (request : Request)
    (value : LatinText) :
    Carries settings (withStandard request value)
      (Headers.set (request.headers.getD []) standardName value) [value.text] where
  listed := rfl
  found := by
    rw [chainHeader, if_pos standard, headerValues, headerName_standard]
    simp only [Headers.values_set]

theorem nameAndPort_withStandard (secure : Bool) (headers : List Header) (value : LatinText)
    (server : Slot Endpoint) :
    nameAndPort secure (Headers.set headers standardName value) server =
      nameAndPort secure headers server := by
  rw [nameAndPort_eq, nameAndPort_eq, Headers.first?_set_of_ne standardName_ne_host]

end Standard

/-! ### The shortened header -/

section Shortened

variable {settings : Settings} {values : List String} {peer : String}

/-- What is left of a header that came over the wire can go back onto it exactly if the peer is
internal, so that it is not named, or has an address of bytes. -/
theorem isLatin_shortened (latin : ∀ value ∈ values, IsLatin value) :
    IsLatin (shorten (DirectiveMap.read values).1 (chainWalk settings values peer)).write ↔
      settings.rules.isInternal peer = true ∨ IsLatin peer := by
  have wire := DirectiveMap.isWire_read latin
  rw [DirectiveMap.isLatin_write (known_shorten fun entry member => (wire entry member).1)]
  constructor
  · intro written
    rcases Bool.eq_false_or_eq_true (settings.rules.isInternal peer) with internal | outside
    · exact Or.inl internal
    · right
      -- A peer that is not internal is the last of the proxies, which replace the old entry.
      have own : peer ∈ (shorten (DirectiveMap.read values).1
          (chainWalk settings values peer)).values "by" := by
        rw [values_shorten_by]
        exact mem_proxies_of_outside outside
      obtain ⟨entry, place, -, inside⟩ := DirectiveMap.mem_entries_of_mem_values own
      exact written entry place peer inside
  · intro showable
    have shortened := isWire_shorten wire
      (fun _ member => isLatin_of_mem_proxies latin showable member)
      (fun _ member => isLatin_of_mem_remaining latin member)
    exact fun entry member => (shortened entry member).2

end Shortened

/-! ### What is shown -/

/-- What an application is shown of scheme, server name and port; nothing if it is not called. -/
def shownServer (prepared : Prepared) : Option (Option String × Option String × Option Int) :=
  match prepared.fault, prepared.request.serverNameAndPort with
  | none, .ok seen => some (prepared.request.scheme, seen)
  | _, _ => none

theorem fault_of_shownServer {prepared : Prepared}
    {seen : Option String × Option String × Option Int}
    (shown : shownServer prepared = some seen) : prepared.fault = none := by
  unfold shownServer at shown
  split at shown
  · assumption
  · exact nomatch shown

/-- Claims as overrides of nothing else. -/
def claimOverrides (claims : ServerClaims) : Overrides :=
  { secure := claims.secure, serverName := claims.serverName, serverPort := claims.serverPort }

/-- The host header that claims call for on a request. -/
def calledHost (claims : ServerClaims) (request : Request) : Option String :=
  (claimOverrides claims).hostHeader? request.isSecure
    (nameAndPort request.isSecure (request.headers.getD []) request.server)

/-- What a request shows under claims. -/
def serverUnder (settings : Settings) (claims : ServerClaims) (request : Request) :
    Option String × Option String × Option Int :=
  ((request.withScheme claims.secure).scheme,
    serverFrom (claims.secure.getD request.isSecure)
      ((calledHost claims request).orElse fun _ =>
        Headers.first? (request.headers.getD []) hostHeader)
      ((initialView settings).localEnd (claimOverrides claims) request.server))

/-- Whether a request from a peer is shown to its application under claims: its state is not null,
and what is written into its headers are bytes. -/
structure IsShown (settings : Settings) (peer : String) (claims : ServerClaims)
    (request : Request) : Prop where
  present : request.state ≠ .null
  peer : settings.rules.isInternal peer = true ∨ IsLatin peer
  host : ∀ host, calledHost claims request = some host → IsLatin host

/-- The claims of a standard header. -/
def headerClaims (settings : Settings) (value : LatinText) : ServerClaims :=
  (standardClaims settings (DirectiveMap.read [value.text]).1).1

/-- The standard header can be assigned exactly if its value is a text of bytes. -/
theorem exists_assignAll_iff {headers : List Header} {text : String} :
    (∃ changed, Headers.assignAll headers [(Settings.standardHeader, unlessEmpty text)] =
      (changed, none)) ↔ IsLatin text := by
  unfold unlessEmpty
  by_cases empty : text.isEmpty = true
  · have nothing : text = "" := String.isEmpty_iff.mp empty
    rw [if_pos empty]
    simp [Headers.assignAll, Headers.assign, headerName_standard, bind, Except.bind, pure,
      Except.pure, nothing, IsLatin]
  · rw [if_neg empty]
    constructor
    · rintro ⟨changed, assigned⟩
      cases encoded : LatinText.encode text with
      | error cause =>
          simp [Headers.assignAll, Headers.assign, headerName_standard, bind, Except.bind,
            encoded] at assigned
      | ok bytes => exact exists_encode_iff.mp ⟨bytes, encoded⟩
    · intro latin
      obtain ⟨bytes, encoded⟩ := exists_encode_iff.mpr latin
      exact ⟨Headers.set headers standardName bytes, by
        simp [Headers.assignAll, Headers.assign, headerName_standard, bind, Except.bind, pure,
          Except.pure, encoded]⟩

section Shown

variable {settings : Settings} {value : LatinText} {peer : String}

/-- The overrides that a standard header resolves to. -/
def standardOverrides (settings : Settings) (value : LatinText) (peer : String)
    (host : Option String) : Overrides :=
  overridesOf (chainWalk settings [value.text] peer) host
    (standardUpdates (DirectiveMap.read [value.text]).1 (chainWalk settings [value.text] peer))
    (headerClaims settings value)

theorem managedNames_standard (standard : settings.standardHeaderOnly = true)
    (value : Option String) :
    Snapshot.managedNames ((initialView settings).names ++
      [(Settings.standardHeader, value)].map (·.1)) = ["forwarded", "host"] := by
  have names : (initialView settings).names = [Settings.standardHeader] := by
    rw [initialView, Settings.managedHeaders, if_pos standard]
  rw [names]
  show Snapshot.managedNames [Settings.standardHeader, Settings.standardHeader] = _
  decide +kernel

theorem exists_managedValues_standard (headers : List Header) :
    ∃ managed, Snapshot.managedValues headers ["forwarded", "host"] = .ok managed := by
  have forwarded : headerName "forwarded" = .ok standardName := by decide +kernel
  have host : headerName "host" = .ok hostHeader := by decide +kernel
  simp [Snapshot.managedValues, forwarded, host, Except.map]

theorem hostHeader?_standard (host : Option String) (request : Request) :
    (standardOverrides settings value peer host).hostHeader? (withStandard request value).isSecure
      (nameAndPort (withStandard request value).isSecure
        (Headers.set (request.headers.getD []) standardName value)
        (withStandard request value).server) =
      calledHost (headerClaims settings value) request := by
  rw [nameAndPort_withStandard]
  rfl

/-- The overrides of a standard header in which the client is found can be put on exactly if the
request is shown under its claims. -/
theorem exists_accepts_iff (standard : settings.standardHeaderOnly = true)
    (resolved : (chainWalk settings [value.text] peer).isResolved = true) (host : Option String)
    (request : Request) :
    (∃ headers written, (initialView settings).Accepts
      (standardOverrides settings value peer host) (withStandard request value) headers written) ↔
      IsShown settings peer (headerClaims settings value) request := by
  have latin : ∀ word ∈ [value.text], IsLatin word := by
    intro word member
    rw [List.mem_singleton.mp member]
    exact value.isLatin_text
  have updates : (standardOverrides settings value peer host).headers = _ :=
    standardUpdates_of_crossed (Or.inl resolved)
  constructor
  · rintro ⟨headers, written, listed, present, -, ⟨changed, assigned, hosted⟩⟩
    have same : headers = Headers.set (request.headers.getD []) standardName value :=
      (Option.some.inj listed).symm
    rw [same, hostHeader?_standard] at hosted
    rw [updates] at assigned
    exact ⟨present, (isLatin_shortened latin).mp
      (exists_assignAll_iff.mp ⟨changed, assigned⟩), exists_writeHost_iff.mp ⟨written, hosted⟩⟩
  · rintro ⟨present, showable, hostLatin⟩
    obtain ⟨changed, assigned⟩ := exists_assignAll_iff.mpr
      ((isLatin_shortened latin).mpr showable)
    obtain ⟨written, hosted⟩ := exists_writeHost_iff.mpr hostLatin
    refine ⟨_, written, rfl, present, ?_, changed, ?_, ?_⟩
    · rw [updates, managedNames_standard standard]
      exact exists_managedValues_standard _
    · rw [updates]
      exact assigned
    · rw [hostHeader?_standard]
      exact hosted

/-! ### The claims decide -/

theorem serverUnder_ensureState (settings : Settings) (claims : ServerClaims)
    (request : Request) :
    serverUnder settings claims request.ensureState = serverUnder settings claims request := by
  unfold ensureState
  split
  · cases claimed : claims.secure <;> simp only [serverUnder, withScheme, claimed] <;> rfl
  · rfl

theorem isShown_ensureState (settings : Settings) (peer : String) (claims : ServerClaims)
    (request : Request) :
    IsShown settings peer claims request.ensureState ↔ IsShown settings peer claims request := by
  have host : calledHost claims request.ensureState = calledHost claims request := by
    unfold ensureState
    split <;> rfl
  have state : request.ensureState.state ≠ .null ↔ request.state ≠ .null := by
    unfold ensureState
    cases state : request.state <;> simp [Slot.isMissing, state]
  constructor
  · rintro ⟨present, showable, latin⟩
    exact ⟨state.mp present, showable, host ▸ latin⟩
  · rintro ⟨present, showable, latin⟩
    exact ⟨state.mpr present, showable, host.symm ▸ latin⟩

theorem resolve_withStandard (standard : settings.standardHeaderOnly = true) (lookup : Lookup)
    (request : Request) (world : World) :
    ∃ host after,
      (resolve settings lookup (withStandard request value).ensureState peer).run world =
        (.ok (standardOverrides settings value peer host), after) := by
  rw [ensureState_withStandard]
  obtain ⟨after, ran, -⟩ := resolve_standard standard
    (carries_withStandard standard request.ensureState value) world
  exact ⟨_, after, ran⟩

variable {request : Request} {endpoint : Endpoint}

/-- The state has no part in what is shown of the server. -/
theorem shownServer_withState {seen : Option String × Option Int} {entered : Request}
    (server : entered.serverNameAndPort = .ok seen) (view : ForwardedView)
    (published : Data.Fields) (world : World) :
    shownServer ⟨view, { entered with state := .value published }, world, none⟩ =
      some (entered.scheme, seen) := by
  have kept : { entered with state := .value published }.serverNameAndPort = .ok seen := server
  simp only [shownServer, kept]

theorem secure_standardOverrides (host : Option String) :
    (standardOverrides settings value peer host).secure = (headerClaims settings value).secure := by
  rw [standardOverrides, overridesOf]

theorem localEnd_standardOverrides (view : ForwardedView) (host : Option String)
    (server : Slot Endpoint) :
    view.localEnd (standardOverrides settings value peer host) server =
      view.localEnd (claimOverrides (headerClaims settings value)) server := by
  rw [standardOverrides, overridesOf, ForwardedView.localEnd, ForwardedView.localEnd,
    claimOverrides]

theorem isSecure_withStandard (request : Request) (value : LatinText) :
    (withStandard request value).isSecure = request.isSecure := by
  rw [isSecure, isSecure, schemeName, schemeName, withStandard]

theorem unmanaged_standardOverrides
    (resolved : (chainWalk settings [value.text] peer).isResolved = true) (host : Option String) :
    ∀ update ∈ (standardOverrides settings value peer host).headers,
      headerName update.1 ≠ .ok hostHeader := by
  intro update member
  rw [standardOverrides, overridesOf, standardUpdates_of_crossed (Or.inl resolved)] at member
  rw [List.mem_singleton.mp member, headerName_standard]
  exact fun same => standardName_ne_host (Except.ok.inj same)

/-- Once a standard header was put on, name and port are those that its claims call for. -/
theorem serverNameAndPort_standard {host : Option String} {headers written : List Header}
    (resolved : (chainWalk settings [value.text] peer).isResolved = true)
    (accepts : (initialView settings).Accepts (standardOverrides settings value peer host)
      (withStandard request value) headers written) :
    ((initialView settings).enteredRequest (standardOverrides settings value peer host)
        (withStandard request value) written).serverNameAndPort =
      .ok (serverUnder settings (headerClaims settings value) request).2 := by
  have listed : headers = Headers.set (request.headers.getD []) standardName value :=
    (Option.some.inj accepts.listed).symm
  have server : (withStandard request value).server = request.server := by rw [withStandard]
  rw [ForwardedView.serverNameAndPort_enteredRequest accepts
      (unmanaged_standardOverrides resolved host), listed, hostHeader?_standard,
    Headers.first?_set_of_ne standardName_ne_host, secure_standardOverrides,
    localEnd_standardOverrides, isSecure_withStandard, server, serverUnder]

theorem scheme_standard (settings : Settings) (value : LatinText) (peer : String)
    (host : Option String) (request : Request) (written : List Header) :
    ((initialView settings).enteredRequest (standardOverrides settings value peer host)
        (withStandard request value) written).scheme =
      (serverUnder settings (headerClaims settings value) request).1 := by
  rw [ForwardedView.enteredRequest, secure_standardOverrides, serverUnder]
  cases (headerClaims settings value).secure with
  | none => rw [withScheme, withScheme, withStandard]
  | some secure => rw [withScheme, withScheme, schemeFor, schemeFor, withStandard]

/-- An application is shown what the claims of the whole standard header say. -/
theorem shownServer_of_isShown (standard : settings.standardHeaderOnly = true)
    (proxied : IsProxied settings request endpoint)
    (resolved : (chainWalk settings [value.text] endpoint.host).isResolved = true)
    (shown : IsShown settings endpoint.host (headerClaims settings value) request)
    (lookup : Lookup) (world : World) :
    shownServer (prepare settings lookup (withStandard request value) world) =
      some (serverUnder settings (headerClaims settings value) request) := by
  have proxiedStandard : IsProxied settings (withStandard request value) endpoint :=
    ⟨proxied.client, proxied.known⟩
  obtain ⟨host, after, resolution⟩ := resolve_withStandard standard lookup request world
  obtain ⟨headers, written, accepts⟩ := (exists_accepts_iff standard resolved host
    request.ensureState).mpr ((isShown_ensureState _ _ _ _).mpr shown)
  have seen := serverNameAndPort_standard resolved accepts
  have spelled := scheme_standard settings value endpoint.host host request.ensureState written
  rw [← ensureState_withStandard] at accepts
  obtain ⟨_, published, ended, -, preparation⟩ :=
    prepare_of_accepts proxiedStandard resolution accepts
  rw [ensureState_withStandard] at preparation
  rw [preparation, shownServer_withState seen, spelled, serverUnder_ensureState]

/-- An application that is not shown its request is not called. -/
theorem shownServer_of_not_isShown (standard : settings.standardHeaderOnly = true)
    (proxied : IsProxied settings request endpoint)
    (resolved : (chainWalk settings [value.text] endpoint.host).isResolved = true)
    (hidden : ¬ IsShown settings endpoint.host (headerClaims settings value) request)
    (lookup : Lookup) (world : World) :
    shownServer (prepare settings lookup (withStandard request value) world) = none := by
  have proxiedStandard : IsProxied settings (withStandard request value) endpoint :=
    ⟨proxied.client, proxied.known⟩
  cases reached : (prepare settings lookup (withStandard request value) world).fault with
  | some fault => simp [shownServer, reached]
  | none =>
      obtain ⟨overrides, _, headers, written, resolution, accepts⟩ :=
        prepare_reached proxiedStandard reached
      obtain ⟨host, _, decided⟩ := resolve_withStandard standard lookup request world
      rw [decided] at resolution
      have same : standardOverrides settings value endpoint.host host = overrides :=
        Except.ok.inj (congrArg Prod.fst resolution)
      rw [← same, ensureState_withStandard] at accepts
      have shown := (exists_accepts_iff standard resolved host request.ensureState).mp
        ⟨headers, written, accepts⟩
      exact absurd ((isShown_ensureState _ _ _ _).mp shown) hidden

end Shown

end ForwardedClient.Middleware
