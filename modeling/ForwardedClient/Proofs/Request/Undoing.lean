import ForwardedClient.Proofs.Request.Encoding
import ForwardedClient.Proofs.Request.Refusal

/-!
Contract: a forwarded view that could not be entered, taken off again.

Owns: the condition under which an entry takes a snapshot, and the request that is left when a view
is taken off after its entry failed.

Does not own: how far the entry got, and views that were entered.
-/

namespace ForwardedClient.Request

open ForwardedClient.Data
open ForwardedClient.Text

/-! ### Taking the snapshot -/

/-- Nothing but a missing header list and the names of the managed headers can keep a snapshot from
being taken. -/
theorem Snapshot.exists_capture_iff {request : Request} {names : List String}
    {withLocalName : Bool} :
    (∃ snapshot, capture request names withLocalName = .ok snapshot) ↔
      request.headers ≠ none ∧
        ∀ name ∈ managedNames names, ∃ bytes, headerName name = .ok bytes := by
  cases listed : request.headers with
  | none => simp [capture, headerList, listed, bind, Except.bind]
  | some headers =>
      rw [← @exists_managedValues_iff headers, capture_eq listed]
      cases managedValues headers (managedNames names) <;> simp [Except.map]

/-! ### Taking the view off -/

namespace ForwardedView

section Undone

variable {view : ForwardedView} {overrides : Overrides} {request : Request} {fault : Fault}

/-- A fresh view has the snapshot that its entry took, if it took one. -/
theorem exists_snapshot_iff (fresh : view.snapshot = none) :
    (view.enter overrides request).view.snapshot.isSome ↔
      request.headers ≠ none ∧
        ∀ name ∈ Snapshot.managedNames (view.names ++ overrides.headers.map (·.1)),
          ∃ bytes, headerName name = .ok bytes := by
  rw [← @Snapshot.exists_capture_iff request _ view.changesLocalName, enter]
  cases Snapshot.capture request (view.names ++ overrides.headers.map (·.1))
      view.changesLocalName with
  | error cause => simp [fresh]
  | ok snapshot => simp

/-- A snapshot undoes the changes of an entry that stopped at a header. -/
theorem restore_haltedRequest {snapshot : Snapshot} {headers : List Header}
    (holds : snapshot.Holds request) :
    snapshot.restore (haltedRequest overrides request headers) =
      ({ request with
          state := .value (snapshot.hostFields (overrides.nameHost request.stateFields)) },
        none) := by
  rw [Snapshot.restore_eq snapshot (Slot.value_ne_null _), holds.client, holds.scheme,
    holds.server, holds.headers]
  rfl

/-- The entries that are left then: all are what they were, and a remote host that was null is
none. -/
theorem find?_hostFields_nameHost {snapshot : Snapshot} (holds : snapshot.Holds request)
    (overrides : Overrides) (name : String) :
    (snapshot.hostFields (overrides.nameHost request.stateFields)).find? name =
      if name = remoteHostKey then unlessNull (request.stateFields.find? remoteHostKey)
      else request.stateFields.find? name := by
  rw [Snapshot.find?_hostFields, holds.remoteHost]
  split
  · rfl
  · rename_i other
    exact find?_nameHost_of_ne overrides _ other

/-- A view whose entry failed can be taken off, and no change is left. A request of which no
snapshot was taken is as it was; of one that was captured, a remote host that was null is none. -/
theorem failed_entry_is_undone (fresh : view.snapshot = none) (present : request.state ≠ .null)
    (refused : (view.enter overrides request).fault = some fault) :
    let entered := view.enter overrides request
    ∃ after, entered.view.exit entered.request = (after, none) ∧
      after = { request with state := after.state } ∧
      (∀ name, name ≠ remoteHostKey → after.stateEntry? name = request.stateEntry? name) ∧
      (entered.view.snapshot.isSome ↔
        request.headers ≠ none ∧
          ∀ name ∈ Snapshot.managedNames (view.names ++ overrides.headers.map (·.1)),
            ∃ bytes, headerName name = .ok bytes) ∧
      after.stateEntry? remoteHostKey =
        if entered.view.snapshot.isSome then (request.stateEntry? remoteHostKey).map unlessNull
        else request.stateEntry? remoteHostKey := by
  intro entered
  have taken := @exists_snapshot_iff view overrides request fresh
  rcases enter_of_refused present refused with early | ⟨headers, snapshot, -, holds, late⟩
  · -- The entry failed before its snapshot, and taking the view off does nothing either.
    have bare : entered.view.snapshot = none := by
      rw [show entered = _ from early]
      exact fresh
    refine ⟨request, ?left, rfl, fun name other => rfl, taken, ?host⟩
    case left =>
      rw [exit, bare, show entered.request = request from congrArg Entered.request early]
    case host =>
      rw [bare]
      rfl
  · have kept : entered.view.snapshot = some snapshot := by
      rw [show entered = _ from late]
    have undone := @restore_haltedRequest overrides request snapshot headers holds
    refine ⟨{ request with
      state := .value (snapshot.hostFields (overrides.nameHost request.stateFields)) },
      ?left, rfl, fun name other => ?entries, taken, ?host⟩
    case left =>
      rw [exit, kept, show entered.request = _ from congrArg Entered.request late]
      exact undone
    case entries =>
      rw [stateEntry?_eq present]
      exact congrArg Except.ok ((find?_hostFields_nameHost holds overrides name).trans
        (if_neg other))
    case host =>
      rw [stateEntry?_eq present, kept]
      exact congrArg Except.ok ((find?_hostFields_nameHost holds overrides remoteHostKey).trans
        (if_pos rfl))

end Undone

/-- A view that may rewrite the trace of the proxies. -/
def traceView : ForwardedView := { names := ["X-Forwarded-For"] }

/-- Overrides whose last header cannot stand on the wire. -/
def unwritableOverrides : Overrides :=
  { remoteAddress := some "198.51.100.7"
    remoteHost := some "client.example"
    secure := some true
    headers := [("X-Forwarded-For", none), ("X-Origin", some "Łódź")] }

/-- A request with a state that knows no remote host. -/
def notedRequest : Request :=
  { kind := some "http"
    headers := some [⟨onWire "x-forwarded-for", onWire "198.51.100.7"⟩]
    client := .value ⟨"10.0.0.1", some 4000⟩
    state := .value [(remoteHostKey, .null), ("user", .text "ada")] }

/-- The entry removes one header and fails at the next; the header comes back, and the scheme is
missing again. -/
theorem failed_header_is_undone :
    let entered := traceView.enter unwritableOverrides notedRequest
    entered.fault.isSome = true ∧
      entered.request.headers = some [] ∧
      entered.request.scheme = some "https" ∧
      ∃ after, entered.view.exit entered.request = (after, none) ∧
        after.headers = notedRequest.headers ∧
        after.scheme = none ∧
        after.client = .value ⟨"10.0.0.1", some 4000⟩ ∧
        after.stateEntry? "user" = .ok (some (.text "ada")) ∧
        after.stateEntry? remoteHostKey = .ok none := by
  intro entered
  have fails : entered.fault.isSome = true := by decide +kernel
  have taken : entered.view.snapshot.isSome = true := by decide +kernel
  obtain ⟨fault, refused⟩ := Option.isSome_iff_exists.mp fails
  obtain ⟨after, left, same, entries, -, host⟩ :=
    @failed_entry_is_undone traceView _ _ _ rfl (Slot.value_ne_null _) refused
  rw [if_pos taken] at host
  refine ⟨fails, by decide +kernel, by decide +kernel, after, left, ?_, ?_, ?_, ?_, host⟩
  · rw [same]
  · rw [same]
    rfl
  · rw [same]
    rfl
  · exact entries "user" (by decide)

/-- Without headers there is no snapshot, and a remote host that is null stays. -/
theorem unsnapped_entry_keeps_null :
    let entered := traceView.enter { remoteAddress := some "198.51.100.7" }
      { kind := some "http", state := .value [(remoteHostKey, .null)] }
    entered.fault.isSome = true ∧
      ∃ after, entered.view.exit entered.request = (after, none) ∧
        after.stateEntry? remoteHostKey = .ok (some .null) ∧
        after.stateEntry? remoteHostKey ≠ .ok none := by
  intro entered
  refine ⟨by decide, _, rfl, rfl, ?_⟩
  rintro ⟨⟩

end ForwardedView

end ForwardedClient.Request
