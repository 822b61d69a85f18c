import ForwardedClient.Data.Display
import ForwardedClient.Proofs.Middleware.JournalScope
import ForwardedClient.Proofs.Request.HostVeil

/-!
Contract: what a reverse look-up can change of a call.

Owns: two calls for one request that differ in what look-ups say, what the application sees of
them, what they leave, and who is looked up.

Does not own: applications that act on the host name they were shown.
-/

namespace ForwardedClient.Middleware

open ForwardedClient.Data
open ForwardedClient.Journal
open ForwardedClient.Request
open ForwardedClient.Trust

/-! ### Two resolutions -/

section Resolve

variable (settings : Settings) (first second : Lookup)

theorem walkHost_agrees (walk : Walk) :
    Step.Agrees (fun name other => name.isSome = other.isSome)
      (walkHost settings first walk) (walkHost settings second walk) := by
  intro world other
  obtain ⟨_, ran, -⟩ := walkHost_run settings first walk world
  obtain ⟨_, otherRan, -⟩ := walkHost_run settings second walk other
  rw [ran, otherRan]
  exact .ok (by rw [Option.isSome_map, Option.isSome_map])

theorem overridesOf_differInHost (walk : Walk) {name other : Option String}
    (named : name.isSome = other.isSome) (updates : List (String × Option String))
    (claims : ServerClaims) :
    (overridesOf walk name updates claims).DifferInHost (overridesOf walk other updates claims) :=
  ⟨rfl, named⟩

/-- Two look-ups lead to the same fault, or to overrides that differ in the host name alone. -/
theorem resolve_agrees (request : Request) (peer : String) :
    Step.Agrees Overrides.DifferInHost (resolve settings first request peer)
      (resolve settings second request peer) := by
  have hosted := walkHost_agrees settings first second
  unfold resolve
  refine .bind_steady (.ofExcept _) fun headers => ?_
  split
  · refine .bind_steady (.ofExcept _) fun values => ?_
    refine .bind_steady (.report _) fun _ => ?_
    refine .bind (hosted _) fun name other named => ?_
    exact .bind_steady (.report _) fun _ => .pure (overridesOf_differInHost _ named _ _)
  · refine .bind_steady (.ofExcept _) fun values => ?_
    refine .bind (hosted _) fun name other named => ?_
    exact .bind_steady (separateClaims_isSteady settings headers) fun claims =>
      .pure (overridesOf_differInHost _ named _ claims)

end Resolve

/-! ### Two calls -/

/-- Two calls that hold the same before their applications run, but for the host name. -/
structure Prepared.DiffersInHost (left right : Prepared) : Prop where
  view : left.view = right.view
  request : left.request.DiffersInHost right.request
  fault : left.fault = right.fault

section Prepare

variable {left right : Prepared}

theorem applyOverrides_eq (overrides : Overrides) (view : ForwardedView) (request : Request)
    (world : World) :
    let entered := view.enter overrides request
    let applied := applyOverrides overrides ⟨view, request, world, none⟩
    applied.view = entered.view ∧ applied.request = entered.request ∧
      applied.fault = entered.fault := by
  intro entered applied
  unfold applied applyOverrides
  simp only
  split
  · rename_i snapshot name port unfailed kept served
    exact ⟨rfl, rfl, unfailed.symm⟩
  · exact ⟨rfl, rfl, rfl⟩

theorem applyOverrides_differsInHost {overrides others : Overrides}
    (same : overrides.DifferInHost others) (view : ForwardedView) (request : Request)
    (world other : World) :
    (applyOverrides overrides ⟨view, request, world, none⟩).DiffersInHost
      (applyOverrides others ⟨view, request, other, none⟩) := by
  obtain ⟨leftView, leftRequest, leftFault⟩ := applyOverrides_eq overrides view request world
  obtain ⟨rightView, rightRequest, rightFault⟩ := applyOverrides_eq others view request other
  obtain ⟨sameView, sameFault, differs⟩ := view.enter_of_differInHost same request
  refine ⟨?_, ?_, ?_⟩
  · rw [leftView, rightView, sameView]
  · rw [leftRequest, rightRequest]
    exact differs
  · rw [leftFault, rightFault, sameFault]

theorem approach_differsInHost (settings : Settings) (first second : Lookup) (view : ForwardedView)
    (request : Request) (world : World) :
    (approach settings first ⟨view, request, world, none⟩).DiffersInHost
      (approach settings second ⟨view, request, world, none⟩) := by
  unfold approach
  simp only
  split
  · exact ⟨rfl, .refl request, rfl⟩
  · rename_i address known
    have agree := resolve_agrees settings first second request address world world
    generalize (resolve settings first request address).run world = ran at agree ⊢
    generalize (resolve settings second request address).run world = otherRan at agree ⊢
    obtain ⟨outcome, after⟩ := ran
    obtain ⟨ending, ended⟩ := otherRan
    cases agree with
    | error fault => exact ⟨rfl, .refl request, rfl⟩
    | ok same => exact applyOverrides_differsInHost same view request after ended

/-- What is published tells them apart in the host name alone. -/
theorem veilLog_attributes {request other : Request} (differs : request.DiffersInHost other)
    (fields others : Fields) (name : Option String) (port : Option Int) :
    veilLog (.object (attributes request fields name port)) =
      veilLog (.object (attributes other others name port)) := by
  rw [differs.rest]
  rfl

theorem publish_differsInHost (differs : left.DiffersInHost right) :
    (publish left).DiffersInHost (publish right) := by
  obtain ⟨view, request, fault⟩ := differs
  unfold publish
  simp only
  rw [request.serverNameAndPort]
  cases served : right.request.serverNameAndPort with
  | error fault => exact ⟨view, request, rfl⟩
  | ok server =>
      obtain ⟨name, port⟩ := server
      rcases request.cases_state with ⟨leftState, rightState⟩ | ⟨leftState, rightState⟩ |
        ⟨fields, others, leftState, rightState, same⟩
      · rw [leftState, rightState]
        exact ⟨view, request, rfl⟩
      · rw [leftState, rightState]
        exact ⟨view, request, rfl⟩
      · rw [leftState, rightState]
        refine ⟨view, request.withFields ?_, fault⟩
        rw [veiled_set, veiled_set, same]
        exact congrArg _ (veilLog_attributes request fields others name port)

theorem introduce_differsInHost (differs : left.DiffersInHost right) :
    (introduce left).DiffersInHost (introduce right) := by
  obtain ⟨view, request, fault⟩ := differs
  unfold introduce
  simp only
  rw [request.serverNameAndPort]
  cases served : right.request.serverNameAndPort with
  | error fault => exact ⟨view, request, rfl⟩
  | ok server => exact ⟨view, request, fault⟩

theorem andThen_differsInHost {next : Prepared → Prepared}
    (keeps : ∀ {left right}, left.DiffersInHost right → (next left).DiffersInHost (next right))
    (differs : left.DiffersInHost right) :
    (left.andThen next).DiffersInHost (right.andThen next) := by
  unfold Prepared.andThen
  rw [differs.fault]
  split
  · exact keeps differs
  · exact differs

/-- Whatever look-ups say, they lead to the same fault, or to the same view of the request but for
the host name. -/
theorem prepare_differsInHost (settings : Settings) (first second : Lookup) (request : Request)
    (world : World) :
    (prepare settings first request world).DiffersInHost
      (prepare settings second request world) := by
  have published : ∀ {left right : Prepared}, left.DiffersInHost right →
      (if settings.publishesAttributes then publish left else left).DiffersInHost
        (if settings.publishesAttributes then publish right else right) := by
    intro left right differs
    split
    · exact publish_differsInHost differs
    · exact differs
  rw [prepare_eq, prepare_eq]
  exact andThen_differsInHost introduce_differsInHost
    (andThen_differsInHost published
      (approach_differsInHost settings first second _ request.ensureState world))

theorem introduction_of_differsInHost {request other : Request}
    (differs : request.DiffersInHost other) (name : Option String) :
    introduction request name = introduction other name := by
  rw [differs.rest]
  rfl

/-- The journal is tied to both requests by the same fields. -/
theorem prepare_context (settings : Settings) (first second : Lookup) (request : Request)
    (world : World) :
    (prepare settings first request world).world.context =
      (prepare settings second request world).world.context := by
  obtain ⟨-, differs, fault⟩ := prepare_differsInHost settings first second request world
  have left := isIntroduced_prepare settings first request world
  have right := isIntroduced_prepare settings second request world
  by_cases reached : (prepare settings first request world).fault = none
  · obtain ⟨name, port, served, context⟩ := left.reached reached
    obtain ⟨other, otherPort, otherServed, otherContext⟩ := right.reached (fault ▸ reached)
    rw [← differs.serverNameAndPort, served] at otherServed
    have names : (name, port) = (other, otherPort) := Except.ok.inj otherServed
    rw [context, otherContext, ← (Prod.mk.inj names).1, introduction_of_differsInHost differs]
  · rw [left.failed reached, right.failed (fault ▸ reached)]

end Prepare

/-! ### Who is looked up -/

/-- An address that a request is to be looked up by: look-ups are on, the peer is a known proxy, and
the walk along the chain ends at that address. -/
structure IsSought (settings : Settings) (request : Request) (address : String) : Prop where
  looksUp : settings.looksUpNames = true
  resolved : ∃ peer headers values, IsProxied settings request peer ∧
    Carries settings request headers values ∧
    (chainWalk settings values peer.host).client = some address

section Lookups

variable {settings : Settings} {request : Request} {peer : Endpoint} {headers : List Header}
  {values : List String}

theorem mem_lookedUp {client : Option String} {address : String} :
    address ∈ lookedUp settings client ↔ settings.looksUpNames = true ∧ client = some address := by
  unfold lookedUp
  cases settings.looksUpNames with
  | true => simp
  | false => simp

theorem isSought_iff (proxied : IsProxied settings request peer)
    (carries : Carries settings request headers values) {address : String} :
    IsSought settings request address ↔
      address ∈ lookedUp settings (chainWalk settings values peer.host).client := by
  rw [mem_lookedUp]
  constructor
  · rintro ⟨looksUp, other, others, otherValues, otherProxied, otherCarries, found⟩
    rw [otherProxied.unique proxied, ← (carries.unique otherCarries).2]
    exact ⟨looksUp, found⟩
  · rintro ⟨looksUp, found⟩
    exact ⟨looksUp, peer, headers, values, proxied, carries, found⟩

theorem carries_ensureState_iff :
    Carries settings request.ensureState headers values ↔ Carries settings request headers values := by
  rw [ensureState_eq]
  exact ⟨fun carries => ⟨carries.listed, carries.found⟩,
    fun carries => ⟨carries.listed, carries.found⟩⟩

/-- The walk of a request decides whom its call looks up, and neither look-ups nor worlds do. -/
theorem exists_lookups (settings : Settings) (request : Request) :
    ∃ made : List String, made.length ≤ 1 ∧
      (∀ address, address ∈ made ↔ IsSought settings request address) ∧
      ∀ lookup world,
        (prepare settings lookup request world).world.lookups = world.lookups ++ made := by
  rcases isProxied_or_isDirect settings request with ⟨peer, proxied⟩ | direct
  · by_cases carried : ∃ headers values, Carries settings request headers values
    · obtain ⟨headers, values, carries⟩ := carried
      refine ⟨lookedUp settings (chainWalk settings values peer.host).client, ?_,
        fun address => (isSought_iff proxied carries).symm, fun lookup world => ?_⟩
      · unfold lookedUp
        split
        · cases (chainWalk settings values peer.host).client <;> simp
        · exact Nat.zero_le 1
      · rw [prepare_lookups proxied]
        exact (resolve_client (carries_ensureState_iff.mpr carries) world).1
    · refine ⟨[], Nat.zero_le 1, fun address => ?_, fun lookup world => ?_⟩
      · refine ⟨fun member => absurd member List.not_mem_nil, fun sought => ?_⟩
        obtain ⟨_, headers, values, -, carries, -⟩ := sought.resolved
        exact absurd ⟨headers, values, carries⟩ carried
      · have uncarried : ¬ ∃ headers values, Carries settings request.ensureState headers values :=
          fun ⟨headers, values, carries⟩ =>
            carried ⟨headers, values, carries_ensureState_iff.mp carries⟩
        obtain ⟨fault, refused⟩ := @resolve_of_uncarried settings lookup request.ensureState
          peer.host uncarried world
        rw [prepare_lookups proxied, refused, List.append_nil]
  · refine ⟨[], Nat.zero_le 1, fun address => ?_, fun lookup world => ?_⟩
    · refine ⟨fun member => absurd member List.not_mem_nil, fun sought => ?_⟩
      obtain ⟨peer, _, _, proxied, -, -⟩ := sought.resolved
      have known := direct peer proxied.client
      rw [proxied.known] at known
      exact absurd known.symm Bool.false_ne_true
    · obtain ⟨reports, approached⟩ := approach_eq_of_isDirect direct lookup world
      rw [prepare_eq, andThen_keeps World.lookups (introduce_keeps World.lookups fun _ _ => rfl),
        andThen_keeps World.lookups (publish_keeps World.lookups settings), approached,
        List.append_nil]
      rfl

end Lookups

/-! ### After the application -/

/-- An application that does nothing with its request, however it ends, and looks nobody up. -/
structure IsInert (application : Application) : Prop where
  held : ∀ request world, (application request world).held.request = request
  lookups : ∀ request world, (application request world).world.lookups = world.lookups

theorem finish_lookups (view : ForwardedView) (outcome : Outcome) :
    (finish view outcome).world.lookups = outcome.world.lookups := by
  unfold finish
  split
  · rfl
  · simp only
    split <;> rfl

theorem finish_request {view : ForwardedView} {outcome : Outcome} {suspended : Bool}
    (decided : outcome.held.request.isSuspended = .ok suspended) :
    (finish view outcome).held.request = (view.exit outcome.held.request !suspended).1 := by
  unfold finish
  simp only [decided]
  split <;> rfl

theorem finish_request_of_error {view : ForwardedView} {outcome : Outcome} {fault : Fault}
    (undecided : outcome.held.request.isSuspended = .error fault) :
    (finish view outcome).held.request = outcome.held.request := by
  unfold finish
  simp only [undecided]

theorem finish_differsInHost (view : ForwardedView) {left right : Outcome}
    (differs : left.held.request.DiffersInHost right.held.request) :
    (finish view left).held.request.DiffersInHost (finish view right).held.request := by
  have marked : left.held.request.isSuspended = right.held.request.isSuspended := by
    rw [isSuspended, isSuspended, hasMark, hasMark,
      differs.stateEntry? (by decide) (by decide)]
  cases decided : right.held.request.isSuspended with
  | error fault =>
      rw [finish_request_of_error decided, finish_request_of_error (marked.trans decided)]
      exact differs
  | ok suspended =>
      rw [finish_request decided, finish_request (marked.trans decided)]
      exact (view.isAlike_exit differs _).1

section Inert

variable {settings : Settings} {lookup : Lookup} {application : Application} {request : Request}
  {world : World} {kind : String}

theorem handle_lookups_of_isInert (inert : IsInert application)
    (handled : request.kind = some kind) (known : isHandledKind kind = true) :
    (handle settings lookup application request world).world.lookups =
      (prepare settings lookup request world).world.lookups := by
  cases failed : (prepare settings lookup request world).fault with
  | some fault => rw [handle_of_unreached handled known failed]
  | none => rw [handle_of_reached handled known failed, finish_lookups, inert.lookups]

theorem handle_differsInHost_of_isInert (inert : IsInert application)
    (handled : request.kind = some kind) (known : isHandledKind kind = true)
    (first second : Lookup) :
    (handle settings first application request world).held.request.DiffersInHost
      (handle settings second application request world).held.request := by
  obtain ⟨view, differs, fault⟩ := prepare_differsInHost settings first second request world
  cases failed : (prepare settings first request world).fault with
  | some cause =>
      rw [handle_of_unreached handled known failed,
        handle_of_unreached handled known (fault ▸ failed)]
      exact differs
  | none =>
      rw [handle_of_reached handled known failed,
        handle_of_reached handled known (fault ▸ failed), view]
      apply finish_differsInHost
      rw [inert.held, inert.held]
      exact differs

end Inert

/-- Reverse look-ups decide nothing but the host name of the client. Whatever two of them say, two
calls for one request fail alike or show the same but for the host name, and tie the journal to the
same fields; if the application does nothing they leave the same client, scheme, server and headers.
A call looks nobody up but the address at which the walk ended, and that only if look-ups are on and
the peer is a known proxy. -/
theorem lookup_decides_host_alone (settings : Settings) (first second : Lookup)
    (request : Request) (world : World) (kind : String) (handled : request.kind = some kind)
    (known : isHandledKind kind = true) :
    let left := prepare settings first request world
    let right := prepare settings second request world
    left.fault = right.fault ∧ left.request.DiffersInHost right.request ∧
      left.world.context = right.world.context ∧
      (∀ application, IsInert application →
        let leftAfter := (handle settings first application request world).held.request
        let rightAfter := (handle settings second application request world).held.request
        leftAfter.client = rightAfter.client ∧ leftAfter.scheme = rightAfter.scheme ∧
          leftAfter.server = rightAfter.server ∧ leftAfter.headers = rightAfter.headers) ∧
      ∃ made : List String, made.length ≤ 1 ∧
        (∀ address, address ∈ made ↔ IsSought settings request address) ∧
        left.world.lookups = world.lookups ++ made ∧
        right.world.lookups = world.lookups ++ made ∧
        ∀ application, IsInert application → ∀ lookup,
          (handle settings lookup application request world).world.lookups =
            world.lookups ++ made := by
  intro left right
  obtain ⟨view, differs, fault⟩ := prepare_differsInHost settings first second request world
  obtain ⟨made, few, sought, looked⟩ := exists_lookups settings request
  refine ⟨fault, differs, prepare_context settings first second request world, ?_, made, few,
    sought, looked first world, looked second world, ?_⟩
  · intro application inert leftAfter rightAfter
    have rest : rightAfter = { leftAfter with state := rightAfter.state } :=
      (handle_differsInHost_of_isInert inert handled known first second).rest
    rw [rest]
    exact ⟨rfl, rfl, rfl, rfl⟩
  · intro application inert lookup
    rw [handle_lookups_of_isInert inert handled known, looked lookup world]

/-- Settings under which clients are looked up. -/
def namingSettings : Settings := { edgeSettings with looksUpNames := true }

/-- Look-ups that find the same name for everybody. -/
def everywhere : Lookup := fun _ => .ok "forged.example"

theorem isInert_run_nil (lookup : Lookup) : IsInert (run lookup []) :=
  ⟨fun _ _ => rfl, fun _ _ => rfl⟩

/-- A name and a failed look-up are told from each other by the host name, and by nothing else. -/
theorem edgeRequest_looked_up :
    edgeRequest.kind = some "http" ∧ isHandledKind "http" = true ∧
      (prepare namingSettings everywhere edgeRequest {}).fault = none ∧
      ((prepare namingSettings everywhere edgeRequest {}).request.remoteHost.toOption.map
        Datum.display) = some "forged.example" ∧
      ((prepare namingSettings nowhere edgeRequest {}).request.remoteHost.toOption.map
        Datum.display) = some "198.51.100.7" ∧
      (prepare namingSettings everywhere edgeRequest {}).request.DiffersInHost
        (prepare namingSettings nowhere edgeRequest {}).request ∧
      (handle namingSettings everywhere (run everywhere []) edgeRequest {}).held.request.client =
        (handle namingSettings nowhere (run everywhere []) edgeRequest {}).held.request.client ∧
      (prepare namingSettings everywhere edgeRequest {}).world.lookups = ["198.51.100.7"] := by
  obtain ⟨-, differs, -, after, -⟩ := lookup_decides_host_alone namingSettings everywhere nowhere
    edgeRequest {} "http" rfl (by decide)
  obtain ⟨client, -⟩ := after (run everywhere []) (isInert_run_nil everywhere)
  refine ⟨rfl, by decide, ?_, ?_, ?_, differs, client, ?_⟩ <;> decide +kernel

end ForwardedClient.Middleware
