import ForwardedClient.Proofs.Request.Snapshot
import ForwardedClient.Request.View

/-!
Contract: what entering a forwarded view does to a request.

Owns: the conditions under which a view can be entered, and the request that is entered then, in
terms of the request before and the overrides; and the outcomes of two runs that count as alike.

Does not own: where the overrides come from.
-/

namespace ForwardedClient.Request

open ForwardedClient.Data
open ForwardedClient.Text

/-! ### Outcomes -/

/-- Two outcomes that are the same fault, or values in a relation. -/
inductive EndAlike {α β : Type} (relation : α → β → Prop) :
    Except Fault α → Except Fault β → Prop where
  | error (fault : Fault) : EndAlike relation (.error fault) (.error fault)
  | ok {left : α} {right : β} (related : relation left right) :
      EndAlike relation (.ok left) (.ok right)

theorem endAlike_of_map_eq {α β : Type} {read : α → β} {left right : Except Fault α}
    (same : left.map read = right.map read) :
    EndAlike (fun value other => read value = read other) left right := by
  cases left with
  | error fault =>
      cases right with
      | error other =>
          injection same with same
          exact same ▸ .error fault
      | ok value => exact nomatch same
  | ok value =>
      cases right with
      | error fault => exact nomatch same
      | ok other => exact .ok (Except.ok.inj same)

/-! ### Single steps -/

theorem withClient_eq (request : Request) (address : Option String) :
    request.withClient address =
      { request with client := (request.withClient address).client } := by
  cases address <;> rfl

theorem withScheme_eq (request : Request) (secure : Option Bool) :
    request.withScheme secure =
      { request with scheme := (request.withScheme secure).scheme } := by
  cases secure <;> rfl

/-- The fields of a state with the host name of the overrides, if they have one. -/
def Overrides.nameHost (overrides : Overrides) (fields : Fields) : Fields :=
  match overrides.remoteHost with
  | none => fields
  | some host => fields.set remoteHostKey (.text host)

theorem find?_nameHost_of_ne (overrides : Overrides) (fields : Fields) {name : String}
    (other : name ≠ remoteHostKey) :
    (overrides.nameHost fields).find? name = fields.find? name := by
  unfold Overrides.nameHost
  cases overrides.remoteHost with
  | none => rfl
  | some host => exact (Fields.find?_set _ _ _ _).trans (if_neg (Ne.symm other))

/-- The host header that the overrides call for, given the security, name and port that were
seen before: none if they give neither name nor port, or if no name is known. -/
def Overrides.hostHeader? (overrides : Overrides) (secure : Bool)
    (original : Option String × Option Int) : Option String :=
  if overrides.serverName.isNone && overrides.serverPort.isNone then none
  else (overrides.serverName.orElse fun _ => original.1).map fun name =>
    hostText (overrides.secure.getD secure) name
      (overrides.serverPort.orElse fun _ => original.2)

/-- Writes a host header, if there is one to write. -/
def Headers.writeHost (headers : List Header) : Option String → Except EncodeError (List Header)
  | none => .ok headers
  | some host => (LatinText.encode host).map (Headers.set headers Request.hostHeader)

namespace ForwardedView

theorem markForwarded_eq {request : Request} {fields : Fields}
    (state : request.state = .value fields) :
    markForwarded request =
      ({ request with state := .value (fields.set forwardedKey (.bool true)) }, none) := by
  have ensured : request.ensureState.state = .value fields := by
    simp [ensureState, state, Slot.isMissing]
  simp [markForwarded, putState, ensured]

theorem localEnd_of_none {view : ForwardedView} {overrides : Overrides} (server : Slot Endpoint)
    (name : overrides.serverName = none) (port : overrides.serverPort = none) :
    view.localEnd overrides server = server := by
  unfold localEnd
  rw [name, port]
  cases server <;> simp [Slot.get?]

/-- Server name and port in one equation: the host header that is called for is written and the
local endpoint is brought up to date. -/
theorem applyServer_eq (view : ForwardedView) (overrides : Overrides) (snapshot : Snapshot)
    {request : Request} {headers : List Header} {fields : Fields}
    (listed : request.headers = some headers) (state : request.state = .value fields) :
    view.applyServer overrides snapshot request =
      match Headers.writeHost headers (overrides.hostHeader? snapshot.secure
        (snapshot.serverName, snapshot.serverPort)) with
      | .error cause => (request, some (.notLatin cause))
      | .ok written =>
        ({ request with
            server := view.localEnd overrides request.server, headers := some written
            state := .value (fields.set forwardedKey (.bool true)) }, none) := by
  unfold applyServer Overrides.hostHeader?
  by_cases silent : (overrides.serverName.isNone && overrides.serverPort.isNone) = true
  · have unnamed := silent
    rw [Bool.and_eq_true, Option.isNone_iff_eq_none, Option.isNone_iff_eq_none] at unnamed
    rw [if_pos silent, if_pos silent, markForwarded_eq state,
      localEnd_of_none request.server unnamed.1 unnamed.2]
    simp only [Headers.writeHost, ← listed]
  · rw [if_neg silent, if_neg silent]
    unfold setServer
    cases named : overrides.serverName.orElse fun _ => snapshot.serverName with
    | none =>
        simp only [Option.map_none, Headers.writeHost, ← listed]
        exact markForwarded_eq state
    | some name =>
        simp only [Option.map_some, Headers.writeHost]
        cases LatinText.encode (hostText (overrides.secure.getD snapshot.secure) name
            (overrides.serverPort.orElse fun _ => snapshot.serverPort)) with
        | error cause => rfl
        | ok host =>
            simp only [Except.map, listed, Option.map_some]
            exact markForwarded_eq state

/-- All changes in one equation, up to the headers. -/
theorem apply_eq (view : ForwardedView) (overrides : Overrides) (snapshot : Snapshot)
    {request : Request} (present : request.state ≠ .null) :
    view.apply overrides snapshot request =
      view.applyHeaders overrides snapshot { request with
        client := (request.withClient overrides.remoteAddress).client
        scheme := (request.withScheme overrides.secure).scheme
        state := .value (overrides.nameHost request.stateFields) } := by
  have ensured : request.ensureState =
      { request with state := .value request.stateFields } := by
    rw [ensureState_eq, ensureState_state present]
  unfold apply Overrides.nameHost
  rw [ensured, withClient_eq]
  cases overrides.remoteHost with
  | none =>
      simp only
      rw [withScheme_eq]
      cases overrides.remoteAddress <;> cases overrides.secure <;> rfl
  | some host =>
      simp only [putState, ensureState, Slot.isMissing, Bool.false_eq_true, if_false]
      rw [withScheme_eq]
      cases overrides.remoteAddress <;> cases overrides.secure <;> rfl

theorem markForwarded_of_null {request : Request} (null : request.state = .null) :
    (markForwarded request).2 ≠ none := by
  simp [markForwarded, putState, ensureState, null, Slot.isMissing]

theorem setServer_state (view : ForwardedView) (overrides : Overrides) (snapshot : Snapshot)
    (request : Request) : (view.setServer overrides snapshot request).1.state = request.state := by
  unfold setServer
  simp only
  split <;> rfl

theorem applyServer_of_null (view : ForwardedView) (overrides : Overrides) (snapshot : Snapshot)
    {request : Request} (null : request.state = .null) :
    (view.applyServer overrides snapshot request).2 ≠ none := by
  unfold applyServer
  split
  · exact markForwarded_of_null null
  · split
    · rename_i served set
      have kept := setServer_state view overrides snapshot request
      rw [set] at kept
      exact markForwarded_of_null (kept.trans null)
    · rename_i failed
      intro done
      exact failed _ (Prod.ext rfl done)

/-- No change is complete on a state that is null. -/
theorem apply_of_null (view : ForwardedView) (overrides : Overrides) (snapshot : Snapshot)
    {request : Request} (null : request.state = .null) :
    (view.apply overrides snapshot request).2 ≠ none := by
  have ensured : request.ensureState = request := by simp [ensureState, null, Slot.isMissing]
  unfold apply
  rw [ensured, withClient_eq]
  cases overrides.remoteHost with
  | some host => simp [putState, ensureState, null, Slot.isMissing]
  | none =>
      simp only
      rw [withScheme_eq]
      unfold applyHeaders
      split
      · simp
      · exact applyServer_of_null view overrides snapshot null

/-! ### Entering -/

/-- What it takes to enter a view: a header list, a state that is not null, names that can stand
on the wire, and values that can. `written` is the header list that comes of it. -/
structure Accepts (view : ForwardedView) (overrides : Overrides) (request : Request)
    (headers written : List Header) : Prop where
  listed : request.headers = some headers
  present : request.state ≠ .null
  named : ∃ managed, Snapshot.managedValues headers
    (Snapshot.managedNames (view.names ++ overrides.headers.map (·.1))) = .ok managed
  assigned : ∃ changed, Headers.assignAll headers overrides.headers = (changed, none) ∧
    Headers.writeHost changed (overrides.hostHeader? request.isSecure
      (nameAndPort request.isSecure headers request.server)) = .ok written

/-- Of the state it matters only that it is not null. -/
theorem Accepts.withState {view : ForwardedView} {overrides : Overrides} {request : Request}
    {headers written : List Header} (accepts : view.Accepts overrides request headers written)
    {state : Slot Fields} (present : state ≠ .null) :
    view.Accepts overrides { request with state } headers written :=
  ⟨accepts.listed, present, accepts.named, accepts.assigned⟩

/-- The request under a view that was entered. -/
def enteredRequest (view : ForwardedView) (overrides : Overrides) (request : Request)
    (written : List Header) : Request :=
  { request with
    client := (request.withClient overrides.remoteAddress).client
    scheme := (request.withScheme overrides.secure).scheme
    server := view.localEnd overrides request.server
    headers := some written
    state := .value
      ((overrides.nameHost request.stateFields).set forwardedKey (.bool true)) }

section Enter

variable {view : ForwardedView} {overrides : Overrides} {request : Request}
  {headers written : List Header}

/-- A view that can be entered keeps a snapshot of the request as it was. -/
theorem enter_of_accepts (accepts : view.Accepts overrides request headers written) :
    ∃ snapshot, snapshot.Holds request ∧
      view.enter overrides request =
        ⟨{ view with snapshot := some snapshot },
          view.enteredRequest overrides request written, none⟩ := by
  obtain ⟨listed, present, ⟨managed, named⟩, ⟨changed, assigned, hosted⟩⟩ := accepts
  have captured := Snapshot.capture_eq listed (view.names ++ overrides.headers.map (·.1))
    view.changesLocalName
  rw [named, Except.map] at captured
  refine ⟨_, Snapshot.holds_of_capture captured, ?_⟩
  unfold enter
  simp only [captured, apply_eq view overrides _ present, applyHeaders, assigned]
  rw [applyServer_eq view overrides _ rfl rfl]
  simp only [hosted, enteredRequest]

/-- A view that was entered could be entered. -/
theorem accepts_of_enter (accepted : (view.enter overrides request).fault = none) :
    ∃ headers written, view.Accepts overrides request headers written := by
  cases captured : Snapshot.capture request (view.names ++ overrides.headers.map (·.1))
      view.changesLocalName with
  | error fault => simp [enter, captured] at accepted
  | ok snapshot =>
      simp only [enter, captured] at accepted
      have present : request.state ≠ .null := fun null =>
        apply_of_null view overrides snapshot null accepted
      obtain ⟨headers, listed⟩ : ∃ headers, request.headers = some headers :=
        ⟨_, (Snapshot.holds_of_capture captured).headers.symm⟩
      rw [Snapshot.capture_eq listed] at captured
      cases named : Snapshot.managedValues headers
          (Snapshot.managedNames (view.names ++ overrides.headers.map (·.1))) with
      | error fault => simp [named, Except.map] at captured
      | ok managed =>
          rw [named] at captured
          injection captured with same
          subst same
          rw [apply_eq view overrides _ present, applyHeaders] at accepted
          cases assigned : Headers.assignAll headers overrides.headers with
          | mk changed cause =>
              cases cause with
              | some cause => simp [assigned] at accepted
              | none =>
                  simp only [assigned] at accepted
                  rw [applyServer_eq view overrides _ rfl rfl] at accepted
                  cases hosted : Headers.writeHost changed (overrides.hostHeader? request.isSecure
                      (nameAndPort request.isSecure headers request.server)) with
                  | error cause => simp [hosted] at accepted
                  | ok written =>
                      exact ⟨headers, written, listed, present, ⟨managed, named⟩,
                        ⟨changed, assigned, hosted⟩⟩

/-- A view is entered exactly if it can be. -/
theorem fault_eq_none_iff_exists_accepts :
    (view.enter overrides request).fault = none ↔
      ∃ headers written, view.Accepts overrides request headers written := by
  refine ⟨accepts_of_enter, ?_⟩
  rintro ⟨headers, written, accepts⟩
  obtain ⟨snapshot, -, put⟩ := enter_of_accepts accepts
  rw [put]

end Enter

end ForwardedView

end ForwardedClient.Request
