import ForwardedClient.Middleware.Program
import ForwardedClient.Proofs.Middleware.Preparation

/-!
Contract: what a call leaves of a request from a known proxy once its application has run.

Owns: the entries that go back to what they were, the entries that stay as the application left
them, and the two ways in which a call may end, by whether the request outlives it.

Does not own: calls that end before their application runs. The application is any function of
the request and the world, so that actions, nested calls and failures are all among them.
-/

namespace ForwardedClient.Middleware

open ForwardedClient.Data
open ForwardedClient.Journal
open ForwardedClient.Request

/-- The entries that a forwarded view changes are as they were before the call: a missing entry
is missing again, the header list is the old one, and a remote host that was null is none. -/
structure IsRestored (before after : Request) : Prop where
  client : after.client = before.client
  scheme : after.scheme = before.scheme
  server : after.server = before.server
  headers : after.headers = before.headers
  remoteHost : after.stateEntry? remoteHostKey = (before.stateEntry? remoteHostKey).map unlessNull

/-- All that no forwarded view changes is as the application left it. -/
structure IsKept (left after : Request) : Prop where
  kind : after.kind = left.kind
  path : after.path = left.path
  version : after.version = left.version
  further : after.further = left.further
  entries : ∀ name, name ≠ remoteHostKey → after.stateEntry? name = left.stateEntry? name

/-- Writing a snapshot back over whatever an application left restores the request that it was
taken of and keeps the rest. -/
theorem restored_of_holds {before left : Request} {snapshot : Snapshot}
    (holds : snapshot.Holds before) (beforePresent : before.state ≠ .null)
    (leftPresent : left.state ≠ .null) :
    ∃ after, snapshot.restore left = (after, none) ∧ IsRestored before after ∧
      IsKept left after := by
  refine ⟨_, Snapshot.restore_eq snapshot leftPresent, ⟨holds.client, holds.scheme, holds.server,
    holds.headers, ?_⟩, ⟨rfl, rfl, rfl, rfl, ?_⟩⟩
  · rw [stateEntry?_eq beforePresent]
    simp [ stateEntry?, Snapshot.find?_hostFields, holds.remoteHost, Except.map]
  · intro name other
    rw [stateEntry?_eq leftPresent]
    simp [ stateEntry?, Snapshot.find?_hostFields, other]

/-- A request that outlives its call is left alone. -/
theorem finish_of_suspended {view : ForwardedView} {outcome : Outcome}
    (suspended : outcome.held.request.isSuspended = .ok true) :
    finish view outcome = { outcome with world := outcome.world.clearContext } := by
  unfold finish ForwardedView.exit
  simp only [suspended]
  cases view.snapshot <;> rfl

/-- Any other request gets the snapshot back. -/
theorem finish_of_ended {view : ForwardedView} {outcome : Outcome} {snapshot : Snapshot}
    {after : Request} (ended : outcome.held.request.isSuspended = .ok false)
    (kept : view.snapshot = some snapshot)
    (restored : snapshot.restore outcome.held.request = (after, none)) :
    finish view outcome =
      ⟨{ outcome.held with request := after }, outcome.world.clearContext, outcome.failure⟩ := by
  unfold finish ForwardedView.exit
  simp [ended, kept, restored]

theorem handle_of_reached {settings : Settings} {lookup : Lookup} {application : Application}
    {request : Request} {world : World} {kind : String} (handled : request.kind = some kind)
    (known : isHandledKind kind = true)
    (reached : (prepare settings lookup request world).fault = none) :
    handle settings lookup application request world =
      finish (prepare settings lookup request world).view
        (application (prepare settings lookup request world).request
          (prepare settings lookup request world).world) := by
  simp only [handle, handled, known, if_true, handleRequest, reached]

theorem handle_of_unreached {settings : Settings} {lookup : Lookup} {application : Application}
    {request : Request} {world : World} {kind : String} {fault : Fault}
    (handled : request.kind = some kind) (known : isHandledKind kind = true)
    (failed : (prepare settings lookup request world).fault = some fault) :
    handle settings lookup application request world =
      ⟨⟨(prepare settings lookup request world).request, none⟩,
        (prepare settings lookup request world).world, some (.request fault)⟩ := by
  simp only [handle, handled, known, if_true, handleRequest, failed]

/-- The ways that the handling of a request can take: it is not one at all, it is passed on, it
ends before the application, or the application runs in between. -/
theorem handle_cases (settings : Settings) (lookup : Lookup) (application : Application)
    (request : Request) (world : World) :
    let prepared := prepare settings lookup request world
    let after := handle settings lookup application request world
    (request.kind = none ∧
      after = ⟨⟨request, none⟩, world, some (.request (.missing "type"))⟩) ∨
    ∃ kind, request.kind = some kind ∧
      (isHandledKind kind = false ∧ after = application request world ∨
        isHandledKind kind = true ∧
          ((∃ fault, prepared.fault = some fault ∧
              after = ⟨⟨prepared.request, none⟩, prepared.world, some (.request fault)⟩) ∨
            prepared.fault = none ∧
              after = finish prepared.view (application prepared.request prepared.world))) := by
  intro prepared after
  cases handled : request.kind with
  | none =>
      refine .inl ⟨rfl, ?_⟩
      simp only [after, handle, handled]
  | some kind =>
      refine .inr ⟨kind, rfl, ?_⟩
      cases known : isHandledKind kind with
      | false =>
          refine .inl ⟨rfl, ?_⟩
          simp only [after, handle, handled, known, Bool.false_eq_true, if_false]
      | true =>
          cases failed : prepared.fault with
          | some fault =>
              exact .inr ⟨rfl, .inl ⟨fault, rfl, handle_of_unreached handled known failed⟩⟩
          | none => exact .inr ⟨rfl, .inr ⟨rfl, handle_of_reached handled known failed⟩⟩

/-- Restoration on every way out. A call for a request from a known proxy that has run its
application ends as the application ended. If the request is not to outlive the call, the entries
that the view changed are as before the call and all others as the application left them, else
the whole request is as the application left it. -/
theorem handle_restores (settings : Settings) (lookup : Lookup) (application : Application)
    (request : Request) (world : World) (kind : String) (peer : Endpoint)
    (handled : request.kind = some kind) (known : isHandledKind kind = true)
    (present : request.state ≠ .null) (proxied : IsProxied settings request peer)
    (reached : (prepare settings lookup request world).fault = none)
    (leftPresent : (application (prepare settings lookup request world).request
      (prepare settings lookup request world).world).held.request.state ≠ .null) :
    let left := application (prepare settings lookup request world).request
      (prepare settings lookup request world).world
    let after := handle settings lookup application request world
    (left.held.request.isSuspended = .ok false ∧
        IsRestored request after.held.request ∧ IsKept left.held.request after.held.request ∨
      left.held.request.isSuspended = .ok true ∧ after.held.request = left.held.request) ∧
      after.held.parted = left.held.parted ∧ after.failure = left.failure := by
  intro left after
  obtain ⟨overrides, resolved, headers, written, resolution, accepts⟩ :=
    prepare_reached proxied reached
  obtain ⟨snapshot, published, entered, holds, preparation⟩ :=
    prepare_of_accepts proxied resolution accepts
  have kept : (prepare settings lookup request world).view.snapshot = some snapshot := by
    rw [preparation]
  obtain ⟨restored, restores, isRestored, isKept⟩ := restored_of_holds holds present leftPresent
  have called : after = finish (prepare settings lookup request world).view left :=
    handle_of_reached handled known reached
  -- The mark is looked for in the state that the application left, not in the one it was given.
  have decided : left.held.request.isSuspended =
      .ok ((left.held.request.stateFields.find? suspendedKey).any Datum.isTruthy) :=
    hasMark_eq leftPresent suspendedKey
  cases suspended : (left.held.request.stateFields.find? suspendedKey).any Datum.isTruthy with
  | true =>
      rw [suspended] at decided
      rw [called, finish_of_suspended decided]
      exact ⟨Or.inr ⟨decided, rfl⟩, rfl, rfl⟩
  | false =>
      rw [suspended] at decided
      rw [called, finish_of_ended decided kept restores]
      exact ⟨Or.inl ⟨decided, isRestored, isKept⟩, rfl, rfl⟩

/-- An application that rewrites what it was shown, runs a second call in the other dialect on
the same request and fails inside it. -/
def meddling : List Action :=
  [.put [.scheme (some "ftp"), .client (.value edgePeer)],
    .remove [.server .missing, .path none],
    .addHeader ⟨{ text := "forwarded" }, { text := "for=198.51.100.9;host=inner" }⟩,
    .nest standardSettings
      [.putState remoteHostKey (.text "elsewhere"), .fail (.raised "late")]]

theorem handle_restores_after_meddling :
    (handle edgeSettings nowhere (run nowhere meddling) edgeRequest {}).failure.isSome = true ∧
      IsRestored edgeRequest
        (handle edgeSettings nowhere (run nowhere meddling) edgeRequest {}).held.request := by
  have leftPresent : (run nowhere meddling (prepare edgeSettings nowhere edgeRequest {}).request
      (prepare edgeSettings nowhere edgeRequest {}).world).held.request.state ≠ .null := by
    intro null
    have absent := congrArg (fun state => state.get?.isSome) null
    exact absurd absent (by decide +kernel)
  obtain ⟨ending, -, failure⟩ := handle_restores edgeSettings nowhere (run nowhere meddling)
    edgeRequest {} "http" edgePeer rfl rfl (by simp [edgeRequest]) edgeRequest_proxied
    edgeRequest_reached leftPresent
  refine ⟨?_, ?_⟩
  · rw [failure]
    decide +kernel
  · rcases ending with ⟨-, restored, -⟩ | ⟨suspended, -⟩
    · exact restored
    · have marked := congrArg Except.toOption suspended
      exact absurd marked (by decide +kernel)

end ForwardedClient.Middleware
