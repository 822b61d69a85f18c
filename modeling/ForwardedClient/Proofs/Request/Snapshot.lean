import ForwardedClient.Request.Snapshot

/-!
Contract: what a snapshot holds and what writing it back gives.

Owns: the laws of single state entries, the success of `Snapshot.capture`, and the request
that `Snapshot.restore` gives in terms of the request that was captured.

Does not own: the changes between the two.
-/

namespace ForwardedClient.Data.Fields

theorem find?_erase (fields : Fields) (name other : String) :
    find? (erase fields name) other = if name = other then none else find? fields other := by
  unfold find? erase
  rw [List.find?_filter]
  by_cases same : name = other
  · simp [same]
  · rw [if_neg same]
    congr 2
    funext field
    by_cases here : field.1 = other
    · simp [here, Ne.symm same]
    · simp [here]

end ForwardedClient.Data.Fields

namespace ForwardedClient.Request

open ForwardedClient.Data
open ForwardedClient.Text

/-! ### Entries of the state -/

theorem Slot.value_ne_null {α : Type} (content : α) : Slot.value content ≠ .null := by
  intro same
  cases same

/-- An entry of the state in which null counts as none. -/
def unlessNull : Option Datum → Option Datum
  | some .null => none
  | entry => entry

/-- The entries of a state; a state that is not there has none. -/
def stateFields (request : Request) : Fields := request.state.get?.getD []

theorem stateEntry?_eq {request : Request} (present : request.state ≠ .null) (name : String) :
    request.stateEntry? name = .ok (request.stateFields.find? name) := by
  unfold stateEntry? stateFields
  cases state : request.state with
  | missing => rfl
  | null => exact absurd state present
  | value fields => rfl

theorem hasMark_eq {request : Request} (present : request.state ≠ .null) (name : String) :
    request.hasMark name = .ok ((request.stateFields.find? name).any Datum.isTruthy) := by
  rw [hasMark, stateEntry?_eq present]
  rfl

theorem ensureState_state {request : Request} (present : request.state ≠ .null) :
    request.ensureState.state = .value request.stateFields := by
  unfold ensureState stateFields
  cases state : request.state with
  | missing => simp [Slot.isMissing, Slot.get?]
  | null => exact absurd state present
  | value fields => simp [Slot.isMissing, Slot.get?, state]

theorem ensureState_eq (request : Request) :
    request.ensureState = { request with state := request.ensureState.state } := by
  unfold ensureState
  split <;> rfl

theorem stateFields_ensureState (request : Request) :
    request.ensureState.stateFields = request.stateFields := by
  unfold ensureState stateFields
  cases state : request.state <;> simp [Slot.isMissing, Slot.get?, state]

namespace Snapshot

/-! ### Taking a snapshot -/

theorem remoteHostOf_eq {request : Request} :
    remoteHostOf request.state = unlessNull (request.stateFields.find? remoteHostKey) := by
  unfold remoteHostOf unlessNull stateFields
  cases request.state <;> rfl

/-- A snapshot can be taken of a request with headers if the names of the managed headers can
stand on the wire; it then holds the request's own entries. -/
theorem capture_eq {request : Request} {headers : List Header}
    (listed : request.headers = some headers) (names : List String) (withLocalName : Bool) :
    capture request names withLocalName =
      (managedValues headers (managedNames names)).map fun managed =>
        { remoteAddress := request.client.get?.map (·.host)
          remoteHost := remoteHostOf request.state
          schemeName := request.schemeName
          secure := request.isSecure
          serverName := (nameAndPort request.isSecure headers request.server).1
          serverPort := (nameAndPort request.isSecure headers request.server).2
          localName := if withLocalName then request.server.get?.map (·.host) else none
          localPort := request.server.get?.bind (·.port)
          managed
          client := request.client
          scheme := request.scheme
          server := request.server
          headers } := by
  simp only [capture, headerList, listed, bind, Except.bind]
  cases managedValues headers (managedNames names) <;> rfl

/-- What a snapshot says of the entries that are written back. -/
structure Holds (snapshot : Snapshot) (request : Request) : Prop where
  client : snapshot.client = request.client
  scheme : snapshot.scheme = request.scheme
  server : snapshot.server = request.server
  headers : some snapshot.headers = request.headers
  remoteHost : snapshot.remoteHost = unlessNull (request.stateFields.find? remoteHostKey)

theorem holds_of_capture {request : Request} {names : List String} {withLocalName : Bool}
    {snapshot : Snapshot} (captured : capture request names withLocalName = .ok snapshot) :
    snapshot.Holds request := by
  cases listed : request.headers with
  | none =>
      unfold capture headerList at captured
      rw [listed] at captured
      exact absurd captured (by simp [bind, Except.bind])
  | some headers =>
      rw [capture_eq listed] at captured
      cases managed : managedValues headers (managedNames names) with
      | error fault => simp [managed, Except.map] at captured
      | ok values =>
          rw [managed] at captured
          injection captured with same
          subst same
          exact ⟨rfl, rfl, rfl, listed.symm, remoteHostOf_eq⟩

/-- Giving a request an empty state changes nothing that a snapshot holds. -/
theorem Holds.of_ensureState {snapshot : Snapshot} {request : Request}
    (holds : snapshot.Holds request.ensureState) : snapshot.Holds request := by
  obtain ⟨client, scheme, server, headers, remoteHost⟩ := holds
  rw [stateFields_ensureState] at remoteHost
  rw [ensureState_eq] at client scheme server headers
  exact ⟨client, scheme, server, headers, remoteHost⟩

/-! ### Writing it back -/

/-- The fields of a state with the remote host of a snapshot. -/
def hostFields (snapshot : Snapshot) (fields : Fields) : Fields :=
  match snapshot.remoteHost with
  | none => fields.erase remoteHostKey
  | some host => fields.set remoteHostKey host

theorem find?_hostFields (snapshot : Snapshot) (fields : Fields) (name : String) :
    (snapshot.hostFields fields).find? name =
      if name = remoteHostKey then snapshot.remoteHost else fields.find? name := by
  unfold hostFields
  cases remoteHost : snapshot.remoteHost with
  | none => simp [Fields.find?_erase, eq_comm]
  | some host => simp [Fields.find?_set, eq_comm]

/-- A request whose state is not null takes a snapshot back without a fault. -/
theorem restore_eq (snapshot : Snapshot) {request : Request} (present : request.state ≠ .null) :
    snapshot.restore request =
      ({ request with
          client := snapshot.client, scheme := snapshot.scheme, server := snapshot.server
          state := .value (snapshot.hostFields request.stateFields)
          headers := some snapshot.headers }, none) := by
  have ensured : ({ request with
      client := snapshot.client, scheme := snapshot.scheme, server := snapshot.server }
      : Request).ensureState.state = .value request.stateFields := ensureState_state present
  unfold restore hostFields
  rw [ensureState_eq, ensured]
  cases snapshot.remoteHost <;> rfl

end Snapshot

end ForwardedClient.Request
