import ForwardedClient.Middleware.Handle
import ForwardedClient.Proofs.Request.View

/-!
Contract: what a call holds when its application is about to run.

Owns: the request, the view and the fault of `prepare` for a request from a known proxy, in
terms of the overrides that its headers resolve to.

Does not own: the resolution, and what comes after the application.
-/

namespace ForwardedClient.Middleware

open ForwardedClient.Data
open ForwardedClient.Journal
open ForwardedClient.Request

/-- A request whose peer is a known proxy. -/
structure IsProxied (settings : Settings) (request : Request) (peer : Endpoint) : Prop where
  client : request.client = .value peer
  known : settings.rules.isProxy peer.host = true

theorem IsProxied.unique {settings : Settings} {request : Request} {peer other : Endpoint}
    (proxied : IsProxied settings request peer) (otherProxied : IsProxied settings request other) :
    other = peer :=
  Slot.value.inj (otherProxied.client.symm.trans proxied.client)

theorem ensureState_client (request : Request) :
    request.ensureState.client = request.client := by
  rw [ensureState_eq]

/-! ### Putting overrides on -/

theorem serverNameAndPort_eq {request : Request} {headers : List Header}
    (listed : request.headers = some headers) :
    request.serverNameAndPort = .ok (nameAndPort request.isSecure headers request.server) := by
  simp [serverNameAndPort, headerList, listed, Except.map]

/-- Overrides that can be put on are put on, with a remark. -/
theorem applyOverrides_of_accepts {view : ForwardedView} {overrides : Overrides}
    {request : Request} {headers written : List Header}
    (accepts : view.Accepts overrides request headers written) (world : World) :
    ∃ snapshot reports, snapshot.Holds request ∧
      applyOverrides overrides ⟨view, request, world, none⟩ =
        ⟨{ view with snapshot := some snapshot },
          view.enteredRequest overrides request written, world.report reports, none⟩ := by
  obtain ⟨snapshot, holds, entered⟩ := ForwardedView.enter_of_accepts accepts
  have listed : (view.enteredRequest overrides request written).headers = some written := rfl
  simp only [applyOverrides, entered, serverNameAndPort_eq listed]
  exact ⟨snapshot, _, holds, rfl⟩

/-! ### Publishing -/

/-- The fields of the state of a request once it is published, if the settings ask for it. -/
def publishedFields (settings : Settings) (request : Request) (headers : List Header)
    (fields : Fields) : Fields :=
  if settings.publishesAttributes then
    fields.set accessLogKey (.object (attributes request fields
      (nameAndPort request.isSecure headers request.server).1
      (nameAndPort request.isSecure headers request.server).2))
  else fields

theorem find?_publishedFields_of_ne (settings : Settings) (request : Request)
    (headers : List Header) (fields : Fields) {name : String} (other : name ≠ accessLogKey) :
    (publishedFields settings request headers fields).find? name = fields.find? name := by
  unfold publishedFields
  split
  · rw [Fields.find?_set, if_neg (Ne.symm other)]
  · rfl

/-- Publishing changes nothing but the state. -/
theorem publish_eq (view : ForwardedView) (world : World) {request : Request}
    {headers : List Header} {fields : Fields} (listed : request.headers = some headers)
    (state : request.state = .value fields) :
    publish ⟨view, request, world, none⟩ =
      ⟨view, { request with
        state := .value (fields.set accessLogKey (.object (attributes request fields
          (nameAndPort request.isSecure headers request.server).1
          (nameAndPort request.isSecure headers request.server).2))) }, world, none⟩ := by
  simp only [publish, serverNameAndPort_eq listed, state]

/-- Introducing a request changes nothing but the world. -/
theorem introduce_eq (view : ForwardedView) (world : World) {request : Request}
    {headers : List Header} (listed : request.headers = some headers) :
    ∃ after, introduce ⟨view, request, world, none⟩ = ⟨view, request, after, none⟩ := by
  simp only [introduce, serverNameAndPort_eq listed]
  exact ⟨_, rfl⟩

/-- What follows the approach changes nothing but the state and the world of a request that has
headers and a state. -/
theorem published_eq (settings : Settings) (view : ForwardedView) (world : World)
    (request : Request) {headers : List Header} {fields : Fields}
    (listed : request.headers = some headers) (state : request.state = .value fields) :
    ∃ after,
      ((⟨view, request, world, none⟩ : Prepared).andThen fun prepared =>
        if settings.publishesAttributes then publish prepared else prepared).andThen introduce =
      ⟨view, { request with
        state := .value (publishedFields settings request headers fields) }, after, none⟩ := by
  unfold publishedFields
  cases publishes : settings.publishesAttributes with
  | false =>
      obtain ⟨after, introduced⟩ := introduce_eq view world listed
      refine ⟨after, ?_⟩
      rw [if_neg Bool.false_ne_true, ← state]
      exact introduced
  | true =>
      have publication := publish_eq view world listed state
      rw [if_pos rfl]
      generalize fields.set accessLogKey _ = published at publication ⊢
      have stillListed : ({ request with state := .value published } : Request).headers =
          some headers := listed
      obtain ⟨after, introduced⟩ := introduce_eq view world stillListed
      refine ⟨after, ?_⟩
      simp only [Prepared.andThen, Option.isNone_none, if_true, publication]
      exact introduced

/-! ### The world -/

section World

variable {γ : Type} (part : World → γ)

theorem andThen_keeps {next : Prepared → Prepared}
    (kept : ∀ prepared, part (next prepared).world = part prepared.world)
    (prepared : Prepared) : part (prepared.andThen next).world = part prepared.world := by
  unfold Prepared.andThen
  split
  · exact kept prepared
  · rfl

theorem applyOverrides_keeps
    (unreported : ∀ world reports, part (World.report world reports) = part world)
    (overrides : Overrides) (prepared : Prepared) :
    part (applyOverrides overrides prepared).world = part prepared.world := by
  unfold applyOverrides
  simp only
  split
  · exact unreported _ _
  · rfl

theorem publish_keeps (settings : Settings) (prepared : Prepared) :
    part (if settings.publishesAttributes then publish prepared else prepared).world =
      part prepared.world := by
  unfold publish
  simp only
  split
  · split <;> rfl
  · rfl

theorem introduce_keeps
    (untied : ∀ world fields, part (World.addContext world fields) = part world)
    (prepared : Prepared) : part (introduce prepared).world = part prepared.world := by
  unfold introduce
  simp only
  split
  · rfl
  · exact untied _ _

end World

/-! ### A request from a known proxy -/

section Proxied

variable {settings : Settings} {lookup : Lookup} {request : Request} {peer : Endpoint}
  {world : World}

theorem approach_eq (proxied : IsProxied settings request peer) :
    approach settings lookup ⟨initialView settings, request.ensureState, world, none⟩ =
      match (resolve settings lookup request.ensureState peer.host).run world with
      | (.ok overrides, resolved) =>
          applyOverrides overrides ⟨initialView settings, request.ensureState, resolved, none⟩
      | (.error fault, resolved) =>
          ⟨initialView settings, request.ensureState, resolved, some fault⟩ := by
  have found : (request.ensureState.client.get?.map (·.host)).filter settings.rules.isProxy =
      some peer.host := by
    rw [ensureState_client, proxied.client]
    simp [Slot.get?, Option.filter, proxied.known]
  cases ran : (resolve settings lookup request.ensureState peer.host).run world with
  | mk resolution resolved => cases resolution <;> simp only [approach, found, ran]

theorem prepare_eq :
    prepare settings lookup request world =
      ((approach settings lookup
          ⟨initialView settings, request.ensureState, world, none⟩).andThen fun prepared =>
        if settings.publishesAttributes then publish prepared else prepared).andThen introduce :=
  rfl

/-- A request whose overrides can be put on reaches its application: as the view that was entered
shows it, and published as it is shown. -/
theorem prepare_eq_of_accepts {overrides : Overrides} {resolved : World}
    {headers written : List Header} (proxied : IsProxied settings request peer)
    (resolution : (resolve settings lookup request.ensureState peer.host).run world =
      (.ok overrides, resolved))
    (accepts : (initialView settings).Accepts overrides request.ensureState headers written) :
    ∃ snapshot after,
      snapshot.Holds request ∧
      prepare settings lookup request world =
        ⟨{ initialView settings with snapshot := some snapshot },
          { (initialView settings).enteredRequest overrides request.ensureState written with
            state := .value (publishedFields settings
              ((initialView settings).enteredRequest overrides request.ensureState written) written
              ((overrides.nameHost request.stateFields).set forwardedKey (.bool true))) },
          after, none⟩ := by
  obtain ⟨snapshot, reports, holds, application⟩ := applyOverrides_of_accepts accepts resolved
  have state : ((initialView settings).enteredRequest overrides request.ensureState written).state =
      .value ((overrides.nameHost request.stateFields).set forwardedKey (.bool true)) := by
    rw [← stateFields_ensureState request]
    rfl
  obtain ⟨after, publication⟩ := published_eq settings
    { initialView settings with snapshot := some snapshot } (resolved.report reports)
    ((initialView settings).enteredRequest overrides request.ensureState written) rfl state
  refine ⟨snapshot, after, holds.of_ensureState, ?_⟩
  rw [prepare_eq, approach_eq proxied, resolution, ← publication]
  simp only [application]

/-- The overrides alone decide what is shown, whatever else came of finding them. -/
theorem prepare_eq_of_decided {overrides : Overrides} {headers written : List Header}
    (proxied : IsProxied settings request peer)
    (decided : ((resolve settings lookup request.ensureState peer.host).run world).1 =
      .ok overrides)
    (accepts : (initialView settings).Accepts overrides request.ensureState headers written) :
    ∃ snapshot after,
      snapshot.Holds request ∧
      prepare settings lookup request world =
        ⟨{ initialView settings with snapshot := some snapshot },
          { (initialView settings).enteredRequest overrides request.ensureState written with
            state := .value (publishedFields settings
              ((initialView settings).enteredRequest overrides request.ensureState written) written
              ((overrides.nameHost request.stateFields).set forwardedKey (.bool true))) },
          after, none⟩ := by
  cases ran : (resolve settings lookup request.ensureState peer.host).run world with
  | mk outcome resolved =>
      rw [ran] at decided
      have same : outcome = .ok overrides := decided
      subst same
      exact prepare_eq_of_accepts proxied ran accepts

/-- Nothing but the state of a request that reaches its application is changed once the view was
entered. -/
theorem prepare_of_accepts {overrides : Overrides} {resolved : World}
    {headers written : List Header} (proxied : IsProxied settings request peer)
    (resolution : (resolve settings lookup request.ensureState peer.host).run world =
      (.ok overrides, resolved))
    (accepts : (initialView settings).Accepts overrides request.ensureState headers written) :
    ∃ snapshot published after,
      snapshot.Holds request ∧
      prepare settings lookup request world =
        ⟨{ initialView settings with snapshot := some snapshot },
          { (initialView settings).enteredRequest overrides request.ensureState written with
            state := .value published }, after, none⟩ := by
  obtain ⟨snapshot, after, holds, preparation⟩ := prepare_eq_of_accepts proxied resolution accepts
  exact ⟨snapshot, _, after, holds, preparation⟩

/-- A request whose overrides cannot be put on does not reach its application. -/
theorem prepare_of_refused {overrides : Overrides} {resolved : World} {fault : Fault}
    (proxied : IsProxied settings request peer)
    (resolution : (resolve settings lookup request.ensureState peer.host).run world =
      (.ok overrides, resolved))
    (refused : ((initialView settings).enter overrides request.ensureState).fault = some fault) :
    (prepare settings lookup request world).fault = some fault := by
  rw [prepare_eq, approach_eq proxied, resolution]
  simp only [applyOverrides, refused, Prepared.andThen, Option.isNone_some, Bool.false_eq_true,
    if_false]

/-- A request that cannot be resolved does not reach its application. -/
theorem prepare_of_unresolved {resolved : World} {fault : Fault}
    (proxied : IsProxied settings request peer)
    (resolution : (resolve settings lookup request.ensureState peer.host).run world =
      (.error fault, resolved)) :
    (prepare settings lookup request world).fault = some fault := by
  rw [prepare_eq, approach_eq proxied, resolution]
  rfl

/-- A request that reaches its application was resolved and entered. -/
theorem prepare_reached (proxied : IsProxied settings request peer)
    (reached : (prepare settings lookup request world).fault = none) :
    ∃ overrides resolved headers written,
      (resolve settings lookup request.ensureState peer.host).run world =
        (.ok overrides, resolved) ∧
      (initialView settings).Accepts overrides request.ensureState headers written := by
  cases outcome : (resolve settings lookup request.ensureState peer.host).run world with
  | mk resolution resolved =>
      cases resolution with
      | error fault =>
          rw [prepare_of_unresolved proxied outcome] at reached
          exact absurd reached (by simp)
      | ok overrides =>
          cases entered : ((initialView settings).enter overrides request.ensureState).fault with
          | none =>
              obtain ⟨headers, written, accepts⟩ := ForwardedView.accepts_of_enter entered
              exact ⟨overrides, resolved, headers, written, rfl, accepts⟩
          | some fault =>
              rw [prepare_of_refused proxied outcome entered] at reached
              exact absurd reached (by simp)

/-- A resolved request reaches its application exactly if its overrides can be put on. -/
theorem reached_iff_accepts {overrides : Overrides} {resolved : World}
    (proxied : IsProxied settings request peer)
    (resolution : (resolve settings lookup request.ensureState peer.host).run world =
      (.ok overrides, resolved)) :
    (prepare settings lookup request world).fault = none ↔
      ∃ headers written,
        (initialView settings).Accepts overrides request.ensureState headers written := by
  constructor
  · intro reached
    obtain ⟨others, _, headers, written, decided, accepts⟩ := prepare_reached proxied reached
    have same : overrides = others :=
      Except.ok.inj (congrArg Prod.fst (resolution.symm.trans decided))
    exact ⟨headers, written, same ▸ accepts⟩
  · rintro ⟨headers, written, accepts⟩
    obtain ⟨_, _, _, -, preparation⟩ := prepare_of_accepts proxied resolution accepts
    rw [preparation]

/-- Only resolution looks anybody up. -/
theorem prepare_lookups (proxied : IsProxied settings request peer) :
    (prepare settings lookup request world).world.lookups =
      ((resolve settings lookup request.ensureState peer.host).run world).2.lookups := by
  rw [prepare_eq, andThen_keeps World.lookups (introduce_keeps World.lookups fun _ _ => rfl),
    andThen_keeps World.lookups (publish_keeps World.lookups settings), approach_eq proxied]
  rcases (resolve settings lookup request.ensureState peer.host).run world with
    ⟨resolution, resolved⟩
  cases resolution with
  | error fault => rfl
  | ok overrides => exact applyOverrides_keeps World.lookups (fun _ _ => rfl) overrides _

end Proxied

/-! ### A request from anybody else -/

/-- A request that no known proxy passed on. -/
def IsDirect (settings : Settings) (request : Request) : Prop :=
  ∀ peer, request.client = .value peer → settings.rules.isProxy peer.host = false

theorem isProxied_or_isDirect (settings : Settings) (request : Request) :
    (∃ peer, IsProxied settings request peer) ∨ IsDirect settings request := by
  cases client : request.client with
  | missing => exact Or.inr fun peer same => nomatch client.symm.trans same
  | null => exact Or.inr fun peer same => nomatch client.symm.trans same
  | value peer =>
      cases known : settings.rules.isProxy peer.host with
      | true => exact Or.inl ⟨peer, client, known⟩
      | false =>
          refine Or.inr fun other same => ?_
          rw [client] at same
          injection same with same
          rw [← same]
          exact known

section Direct

variable {settings : Settings} {request : Request}

theorem approach_eq_of_isDirect (direct : IsDirect settings request) (lookup : Lookup)
    (world : World) :
    ∃ reports, approach settings lookup ⟨initialView settings, request.ensureState, world, none⟩ =
      ⟨initialView settings, request.ensureState, world.report reports, none⟩ := by
  have unknown : (request.ensureState.client.get?.map (·.host)).filter settings.rules.isProxy =
      none := by
    rw [ensureState_client]
    cases client : request.client with
    | missing => rfl
    | null => rfl
    | value peer => simp [Slot.get?, Option.filter, direct peer client]
  simp only [approach, unknown]
  exact ⟨_, rfl⟩

theorem approach_of_isDirect (direct : IsDirect settings request) (lookup : Lookup)
    (world : World) :
    ∃ after, approach settings lookup ⟨initialView settings, request.ensureState, world, none⟩ =
      ⟨initialView settings, request.ensureState, after, none⟩ := by
  obtain ⟨reports, approached⟩ := approach_eq_of_isDirect direct lookup world
  exact ⟨_, approached⟩

/-- Such a request reaches its application, published as it is. -/
theorem prepare_eq_of_isDirect {headers : List Header} (direct : IsDirect settings request)
    (listed : request.headers = some headers) (present : request.state ≠ .null) (lookup : Lookup)
    (world : World) :
    ∃ after, prepare settings lookup request world =
      ⟨initialView settings, { request with
        state := .value (publishedFields settings request.ensureState headers
          request.stateFields) }, after, none⟩ := by
  obtain ⟨reported, approached⟩ := approach_of_isDirect direct lookup world
  have ensured : request.ensureState.headers = some headers := by
    rw [ensureState_eq]
    exact listed
  obtain ⟨after, publication⟩ := published_eq settings (initialView settings) reported
    request.ensureState ensured (ensureState_state present)
  refine ⟨after, ?_⟩
  rw [prepare_eq, approached, publication]
  simp only [Prepared.mk.injEq, and_true, true_and]
  rw [ensureState_eq]

/-- Nothing but its state is changed. -/
theorem prepare_of_isDirect {headers : List Header} (direct : IsDirect settings request)
    (listed : request.headers = some headers) (present : request.state ≠ .null) (lookup : Lookup)
    (world : World) :
    ∃ published after, prepare settings lookup request world =
      ⟨initialView settings, { request with state := .value published }, after, none⟩ := by
  obtain ⟨after, preparation⟩ := prepare_eq_of_isDirect direct listed present lookup world
  exact ⟨_, after, preparation⟩

/-- Without a header list it is only given a state. -/
theorem prepare_of_isDirect_of_unlisted (direct : IsDirect settings request)
    (unlisted : request.headers = none) (lookup : Lookup) (world : World) :
    ∃ after, prepare settings lookup request world =
      ⟨initialView settings, request.ensureState, after, some (.missing "headers")⟩ := by
  obtain ⟨reported, approached⟩ := approach_of_isDirect direct lookup world
  have unseen : request.ensureState.serverNameAndPort = .error (.missing "headers") := by
    rw [ensureState_eq]
    simp [serverNameAndPort, headerList, unlisted, Except.map]
  refine ⟨reported, ?_⟩
  rw [prepare_eq, approached]
  cases publishes : settings.publishesAttributes <;>
    simp [Prepared.andThen, publish, introduce, unseen]

/-- A state that is null stays so, and is in the way of what is to be published in it. -/
theorem prepare_of_isDirect_of_null {headers : List Header} (direct : IsDirect settings request)
    (listed : request.headers = some headers) (null : request.state = .null) (lookup : Lookup)
    (world : World) :
    (prepare settings lookup request world).request = request ∧
      ((prepare settings lookup request world).fault = none ↔
        settings.publishesAttributes = false) := by
  obtain ⟨reported, approached⟩ := approach_of_isDirect direct lookup world
  have ensured : request.ensureState = request := by simp [ensureState, null, Slot.isMissing]
  rw [ensured] at approached
  obtain ⟨after, introduced⟩ := introduce_eq (initialView settings) reported listed
  rw [prepare_eq, ensured, approached]
  cases publishes : settings.publishesAttributes with
  | true => simp [Prepared.andThen, publish, serverNameAndPort_eq listed, null]
  | false => simp [Prepared.andThen, introduced]

section Reached

variable {lookup : Lookup} {world : World}

/-- It reaches its application with a header list only. -/
theorem listed_of_isDirect (direct : IsDirect settings request)
    (reached : (prepare settings lookup request world).fault = none) :
    ∃ headers, request.headers = some headers := by
  cases listed : request.headers with
  | some headers => exact ⟨headers, rfl⟩
  | none =>
      obtain ⟨after, preparation⟩ := prepare_of_isDirect_of_unlisted direct listed lookup world
      rw [preparation] at reached
      exact nomatch reached

/-- If it reaches its application, nothing but its state was changed. -/
theorem prepare_request_of_isDirect (direct : IsDirect settings request)
    (reached : (prepare settings lookup request world).fault = none) :
    (prepare settings lookup request world).request =
      { request with state := (prepare settings lookup request world).request.state } := by
  obtain ⟨headers, listed⟩ := listed_of_isDirect direct reached
  by_cases null : request.state = .null
  · rw [(prepare_of_isDirect_of_null direct listed null lookup world).1]
  · obtain ⟨published, after, preparation⟩ :=
      prepare_of_isDirect direct listed null lookup world
    rw [preparation]

end Reached

end Direct

/-! ### A request at the edge -/

theorem readable_edgePeer : (Pattern.Node.read "10.0.0.1").isOk = true := by decide +kernel

/-- Settings under which one address is that of an internal proxy. -/
def edgeSettings : Settings :=
  { Settings.initial with
    internalProxies := Settings.ProxyPattern.ofReadable "10.0.0.1" readable_edgePeer }

/-- The same settings in the standard dialect. -/
def standardSettings : Settings := { edgeSettings with standardHeaderOnly := true }

def edgePeer : Endpoint := ⟨"10.0.0.1", some 4000⟩

/-- A request that a proxy passed on for a client. -/
def edgeRequest : Request :=
  { kind := some "http"
    scheme := some "http"
    headers := some
      [⟨{ text := "x-forwarded-for" }, { text := "192.0.2.1, 198.51.100.7" }⟩,
        ⟨hostHeader, { text := "edge.example" }⟩]
    client := .value edgePeer }

/-- Look-ups that find nobody. -/
def nowhere : Lookup := fun _ => .error .unknownHost

theorem edgeRequest_proxied : IsProxied edgeSettings edgeRequest edgePeer :=
  ⟨rfl, by decide +kernel⟩

theorem edgeRequest_reached :
    (prepare edgeSettings nowhere edgeRequest {}).fault = none := by
  decide +kernel

end ForwardedClient.Middleware
