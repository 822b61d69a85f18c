import ForwardedClient.Proofs.Request.View

/-!
Contract: what a forwarded view that could not be entered leaves of a request.

Owns: the request after a failed entry, in terms of the request before it and of the overrides,
and the snapshot that was taken of it, if one was.

Does not own: where the overrides come from, and who takes the view off again.
-/

namespace ForwardedClient.Request

open ForwardedClient.Data
open ForwardedClient.Text

/-- Two requests with the same client, scheme, server, headers and remote host. -/
structure IsUntouched (before after : Request) : Prop where
  client : after.client = before.client
  scheme : after.scheme = before.scheme
  server : after.server = before.server
  headers : after.headers = before.headers
  remoteHost : after.stateEntry? remoteHostKey = before.stateEntry? remoteHostKey

theorem isUntouched_ensureState {request : Request} (present : request.state ≠ .null) :
    IsUntouched request request.ensureState := by
  have ensured : request.ensureState.state ≠ .null := by
    rw [ensureState_state present]
    exact Slot.value_ne_null _
  refine ⟨?_, ?_, ?_, ?_, ?_⟩
  · rw [ensureState_eq]
  · rw [ensureState_eq]
  · rw [ensureState_eq]
  · rw [ensureState_eq]
  · rw [stateEntry?_eq ensured, stateEntry?_eq present, stateFields_ensureState]

/-- The request that is left when a header cannot be written: client, host name and scheme are
those of the overrides, and so are the headers before the one that failed. -/
def haltedRequest (overrides : Overrides) (request : Request) (headers : List Header) : Request :=
  { request with
    client := (request.withClient overrides.remoteAddress).client
    scheme := (request.withScheme overrides.secure).scheme
    headers := some (Headers.assignAll headers overrides.headers).1
    state := .value (overrides.nameHost request.stateFields) }

namespace ForwardedView

section Refused

variable {view : ForwardedView} {overrides : Overrides} {request : Request} {fault : Fault}

/-- An entry fails before the snapshot and changes nothing, or it fails at a header and leaves the
snapshot and all changes up to that header. -/
theorem enter_of_refused (present : request.state ≠ .null)
    (refused : (view.enter overrides request).fault = some fault) :
    view.enter overrides request = ⟨view, request, some fault⟩ ∨
      ∃ headers snapshot, request.headers = some headers ∧ snapshot.Holds request ∧
        view.enter overrides request =
          ⟨{ view with snapshot := some snapshot },
            haltedRequest overrides request headers, some fault⟩ := by
  cases captured : Snapshot.capture request (view.names ++ overrides.headers.map (·.1))
      view.changesLocalName with
  | error cause =>
      simp only [enter, captured, Option.some.injEq] at refused ⊢
      exact Or.inl (by rw [refused])
  | ok snapshot =>
      have holds := Snapshot.holds_of_capture captured
      refine Or.inr ⟨snapshot.headers, snapshot, holds.headers.symm, holds, ?_⟩
      simp only [enter, captured, apply_eq view overrides snapshot present,
        applyHeaders] at refused ⊢
      cases assigned : Headers.assignAll snapshot.headers overrides.headers with
      | mk changed cause =>
          cases cause with
          | some cause =>
              simp only [assigned, Option.some.injEq] at refused ⊢
              rw [refused, haltedRequest, assigned]
          | none =>
              -- All header updates were made, so that it was the host header that failed.
              simp only [assigned] at refused ⊢
              rw [applyServer_eq view overrides snapshot rfl rfl] at refused ⊢
              cases hosted : Headers.writeHost changed (overrides.hostHeader? snapshot.secure
                  (snapshot.serverName, snapshot.serverPort)) with
              | ok written => simp [hosted] at refused
              | error cause =>
                  simp only [hosted, Option.some.injEq] at refused ⊢
                  rw [refused, haltedRequest, assigned]

end Refused

end ForwardedView

end ForwardedClient.Request
