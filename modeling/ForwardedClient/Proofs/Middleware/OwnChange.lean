import ForwardedClient.Proofs.Middleware.Restoration

/-!
Contract: what the handling of a request touches, on whatever way it takes.

Owns: the entries of the state that the handling writes, and the law that neither what comes before
the application nor what comes after it touches any other, also if it fails.

Does not own: what is written into them.
-/

namespace ForwardedClient.Request

open ForwardedClient.Data

/-- The names under which the handling of a request writes into its state. -/
def ownKeys : List String := [remoteHostKey, forwardedKey, accessLogKey]

theorem find?_set_of_own (fields : Fields) {name other : String} (own : name ∈ ownKeys)
    (foreign : other ∉ ownKeys) (value : Datum) :
    (fields.set name value).find? other = fields.find? other := by
  rw [Fields.find?_set, if_neg]
  rintro rfl
  exact foreign own

/-- Setting an entry of the state changes no other entry. -/
theorem entries_of_putState {request changed : Request} {name : String} {value : Datum}
    (put : request.putState name value = .ok changed) :
    changed.kind = request.kind ∧ ∀ other, changed.stateEntry? other =
      if name = other then .ok (some value) else request.stateEntry? other := by
  have present : request.state ≠ .null := by
    intro null
    simp [putState, ensureState, null, Slot.isMissing] at put
  rw [putState, ensureState_state present] at put
  have same := Except.ok.inj put
  subst same
  refine ⟨rfl, fun other => ?_⟩
  rw [stateEntry?_eq present, stateEntry?]
  simp only [Fields.find?_set]
  split <;> rfl

/-- A snapshot cannot be written back into a state of null. -/
theorem Snapshot.restore_of_null (snapshot : Snapshot) {request : Request}
    (null : request.state = .null) :
    (snapshot.restore request).1 = { request with
      client := snapshot.client, scheme := snapshot.scheme, server := snapshot.server } := by
  have ensured : ({ request with
      client := snapshot.client, scheme := snapshot.scheme, server := snapshot.server }
      : Request).ensureState = { request with
      client := snapshot.client, scheme := snapshot.scheme, server := snapshot.server } := by
    simp [Request.ensureState, null, Slot.isMissing]
  unfold restore
  rw [ensured]
  simp only [null]
  cases snapshot.remoteHost <;> rfl

/-- A change that the handling may make: the kind stays, all entries of the state but its own stay,
and a mark that a proxy was believed is not taken back. -/
structure IsOwnChange (before after : Request) : Prop where
  kind : after.kind = before.kind
  entries : ∀ name, name ∉ ownKeys → after.stateEntry? name = before.stateEntry? name
  marked : before.isForwarded = .ok true → after.isForwarded = .ok true

namespace IsOwnChange

variable {before between after request changed : Request}

theorem refl (request : Request) : IsOwnChange request request :=
  ⟨rfl, fun _ _ => rfl, id⟩

theorem trans (first : IsOwnChange before between) (second : IsOwnChange between after) :
    IsOwnChange before after :=
  ⟨second.kind.trans first.kind,
    fun name other => (second.entries name other).trans (first.entries name other),
    fun marked => second.marked (first.marked marked)⟩

/-- A change that leaves kind and state alone. -/
theorem of_state (kind : after.kind = before.kind) (state : after.state = before.state) :
    IsOwnChange before after := by
  have entry : ∀ name, after.stateEntry? name = before.stateEntry? name := by
    intro name
    rw [ stateEntry?, stateEntry?, state]
  refine ⟨kind, fun name _ => entry name, fun marked => ?_⟩
  rwa [isForwarded, hasMark, entry]

theorem ensureState (request : Request) : IsOwnChange request request.ensureState := by
  have entry : ∀ name, request.ensureState.stateEntry? name = request.stateEntry? name := by
    intro name
    unfold Request.ensureState stateEntry?
    cases state : request.state <;> simp [Slot.isMissing, state, Fields.find?]
  refine ⟨by rw [ensureState_eq], fun name _ => entry name, fun marked => ?_⟩
  rwa [isForwarded, hasMark, entry]

theorem withClient (request : Request) (address : Option String) :
    IsOwnChange request (request.withClient address) :=
  of_state (by rw [withClient_eq]) (by rw [withClient_eq])

theorem withScheme (request : Request) (secure : Option Bool) :
    IsOwnChange request (request.withScheme secure) :=
  of_state (by rw [withScheme_eq]) (by rw [withScheme_eq])

/-- The state stays what it is, or becomes one whose foreign entries are the same. -/
theorem withFields {fields : Fields} (present : request.state ≠ .null)
    (kind : changed.kind = request.kind) (state : changed.state = .value fields)
    (entries : ∀ name, name ∉ ownKeys → fields.find? name = request.stateFields.find? name)
    (marked : (request.stateFields.find? forwardedKey).any Datum.isTruthy = true →
      (fields.find? forwardedKey).any Datum.isTruthy = true) : IsOwnChange request changed := by
  have entry : ∀ name, changed.stateEntry? name = .ok (fields.find? name) := by
    intro name
    rw [ stateEntry?, state]
  refine ⟨kind, fun name other => ?_, fun before => ?_⟩
  · rw [entry, stateEntry?_eq present, entries name other]
  · rw [isForwarded, hasMark_eq present] at before
    rw [isForwarded, hasMark, entry]
    exact congrArg Except.ok (marked (Except.ok.inj before))

theorem putState {name : String} {value : Datum} (own : name ∈ ownKeys)
    (truthy : name = forwardedKey → value.isTruthy = true)
    (put : request.putState name value = .ok changed) : IsOwnChange request changed := by
  obtain ⟨kind, entry⟩ := entries_of_putState put
  refine ⟨kind, fun other foreign => ?_, fun marked => ?_⟩
  · rw [entry, if_neg]
    rintro rfl
    exact foreign own
  · rw [isForwarded, hasMark, entry]
    by_cases mark : name = forwardedKey
    · rw [if_pos mark]
      exact congrArg Except.ok (truthy mark)
    · rwa [if_neg mark]

theorem restore (snapshot : Snapshot) (request : Request) :
    IsOwnChange request (snapshot.restore request).1 := by
  by_cases null : request.state = .null
  · rw [snapshot.restore_of_null null]
    exact of_state rfl rfl
  · rw [snapshot.restore_eq null]
    refine withFields null rfl rfl (fun name foreign => ?_) fun marked => ?_
    · rw [Snapshot.find?_hostFields, if_neg]
      rintro rfl
      exact foreign List.mem_cons_self
    · rwa [Snapshot.find?_hostFields, if_neg (by decide)]

end IsOwnChange

/-! ### Putting the view on -/

namespace ForwardedView

open ForwardedClient.Text

variable (view : ForwardedView) (overrides : Overrides) (snapshot : Snapshot) (request : Request)

theorem isOwnChange_markForwarded : IsOwnChange request (markForwarded request).1 := by
  unfold markForwarded
  cases put : request.putState forwardedKey (.bool true) with
  | error fault => exact .refl request
  | ok marked => exact .putState (by decide) (fun _ => rfl) put

theorem isOwnChange_setServer : IsOwnChange request (view.setServer overrides snapshot request).1 := by
  refine .of_state ?_ (setServer_state view overrides snapshot request)
  unfold setServer
  simp only
  split <;> rfl

theorem isOwnChange_applyServer :
    IsOwnChange request (view.applyServer overrides snapshot request).1 := by
  have set := isOwnChange_setServer view overrides snapshot request
  unfold applyServer
  split
  · exact isOwnChange_markForwarded request
  · split
    · rename_i changed served
      rw [served] at set
      exact set.trans (isOwnChange_markForwarded changed)
    · exact set

theorem isOwnChange_applyHeaders :
    IsOwnChange request (view.applyHeaders overrides snapshot request).1 := by
  unfold applyHeaders
  split
  · exact .of_state rfl rfl
  · rename_i headers assigned
    have written : IsOwnChange request { request with headers := some headers } := .of_state rfl rfl
    exact written.trans (isOwnChange_applyServer view overrides snapshot _)

theorem isOwnChange_apply : IsOwnChange request (view.apply overrides snapshot request).1 := by
  have addressed := (IsOwnChange.ensureState request).trans
    (.withClient request.ensureState overrides.remoteAddress)
  have rest : ∀ named, IsOwnChange request named →
      IsOwnChange request
        (view.applyHeaders overrides snapshot (named.withScheme overrides.secure)).1 :=
    fun named change => (change.trans (.withScheme named overrides.secure)).trans
      (isOwnChange_applyHeaders view overrides snapshot _)
  unfold apply
  cases overrides.remoteHost with
  | none => exact rest _ addressed
  | some host =>
      cases put : (request.ensureState.withClient overrides.remoteAddress).putState remoteHostKey
          (.text host) with
      | error fault =>
          simp only [put]
          exact addressed
      | ok named =>
          simp only [put]
          exact rest named (addressed.trans
            (.putState (by decide) (fun same => absurd same (by decide)) put))

theorem isOwnChange_enter : IsOwnChange request (view.enter overrides request).request := by
  unfold enter
  simp only
  split
  · exact .refl request
  · exact isOwnChange_apply view overrides _ request

theorem isOwnChange_exit (restore : Bool) : IsOwnChange request (view.exit request restore).1 := by
  unfold exit
  split
  · split
    · exact .restore _ request
    · exact .refl request
  · exact .refl request

end ForwardedView

end ForwardedClient.Request

namespace ForwardedClient.Middleware

open ForwardedClient.Data
open ForwardedClient.Journal
open ForwardedClient.Request

/-! ### Before the application -/

section Prepared

variable {request : Request} {prepared : Prepared}

theorem isOwnChange_applyOverrides (overrides : Overrides) (prepared : Prepared) :
    IsOwnChange prepared.request (applyOverrides overrides prepared).request := by
  have entered := prepared.view.isOwnChange_enter overrides prepared.request
  unfold applyOverrides
  simp only
  split <;> exact entered

theorem isOwnChange_approach (settings : Settings) (lookup : Lookup) (prepared : Prepared) :
    IsOwnChange prepared.request (approach settings lookup prepared).request := by
  unfold approach
  simp only
  split
  · exact .refl _
  · split
    · rename_i overrides world ran
      exact isOwnChange_applyOverrides overrides { prepared with world }
    · exact .refl _

theorem isOwnChange_publish (prepared : Prepared) :
    IsOwnChange prepared.request (publish prepared).request := by
  unfold publish
  simp only
  split
  · exact .refl _
  · rename_i name port state served held
    have fields : prepared.request.stateFields = state := by
      rw [stateFields, held]
      rfl
    have present : prepared.request.state ≠ .null := by
      rw [held]
      exact Slot.value_ne_null state
    refine .withFields present rfl rfl (fun name foreign => ?_) fun marked => ?_
    · rw [find?_set_of_own _ (by decide) foreign, fields]
    · rwa [Fields.find?_set, if_neg (by decide), ← fields]
  · exact .refl _

theorem introduce_request (prepared : Prepared) :
    (introduce prepared).request = prepared.request := by
  unfold introduce
  simp only
  split <;> rfl

theorem isOwnChange_andThen {next : Prepared → Prepared}
    (change : ∀ prepared, IsOwnChange prepared.request (next prepared).request)
    (prepared : Prepared) : IsOwnChange prepared.request (prepared.andThen next).request := by
  unfold Prepared.andThen
  split
  · exact change prepared
  · exact .refl _

/-- What comes before the application makes only such changes, also if it fails. -/
theorem isOwnChange_prepare (settings : Settings) (lookup : Lookup) (request : Request)
    (world : World) :
    IsOwnChange request (prepare settings lookup request world).request := by
  have started := (IsOwnChange.ensureState request).trans
    (isOwnChange_approach settings lookup
      ⟨initialView settings, request.ensureState, world, none⟩)
  have published : ∀ prepared : Prepared, IsOwnChange prepared.request
      (if settings.publishesAttributes then publish prepared else prepared).request := by
    intro prepared
    split
    · exact isOwnChange_publish prepared
    · exact .refl _
  have introduced : ∀ prepared : Prepared,
      IsOwnChange prepared.request (introduce prepared).request := by
    intro prepared
    rw [introduce_request]
    exact .refl _
  rw [prepare_eq]
  exact (started.trans (isOwnChange_andThen published _)).trans (isOwnChange_andThen introduced _)

end Prepared

/-! ### After the application -/

/-- So does what comes after it. -/
theorem isOwnChange_finish (view : ForwardedView) (outcome : Outcome) :
    IsOwnChange outcome.held.request (finish view outcome).held.request := by
  unfold finish
  split
  · exact .refl _
  · rename_i suspended decided
    have left := view.isOwnChange_exit outcome.held.request !suspended
    simp only
    split <;> exact left

end ForwardedClient.Middleware
