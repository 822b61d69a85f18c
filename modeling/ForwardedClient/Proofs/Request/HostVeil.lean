import ForwardedClient.Proofs.Request.View

/-!
Contract: requests that are the same but for the host name of the client.

Owns: the veil over the two places of a state where that name stands, the requests that cannot be
told apart through it, and the law that views which differ in the name alone are put on and taken
off such requests alike.

Does not own: where the name comes from, and who publishes it.
-/

namespace ForwardedClient.Request

open ForwardedClient.Data
open ForwardedClient.Text

/-! ### The veil -/

/-- A published entry without the host name in it. -/
def veilLog : Datum → Datum
  | .object fields => .object (fields.map fun field =>
      if field.1 = remoteHostKey then (field.1, .null) else field)
  | value => value

/-- An entry of the state without the host name of the client. -/
def veil (name : String) (value : Datum) : Datum :=
  if name = remoteHostKey then .null
  else if name = accessLogKey then veilLog value
  else value

def veiled (fields : Fields) : Fields := fields.map fun field => (field.1, veil field.1 field.2)

theorem veil_of_foreign {name : String} (notHost : name ≠ remoteHostKey)
    (notLog : name ≠ accessLogKey) (value : Datum) : veil name value = value := by
  rw [veil, if_neg notHost, if_neg notLog]

theorem veiled_cons (field : String × Datum) (rest : Fields) :
    veiled (field :: rest) = (field.1, veil field.1 field.2) :: veiled rest := rfl

theorem veiled_set (fields : Fields) (name : String) (value : Datum) :
    veiled (fields.set name value) = Fields.set (veiled fields) name (veil name value) := by
  induction fields with
  | nil => rfl
  | cons field rest inductionHypothesis =>
      rw [Fields.set, veiled_cons, Fields.set]
      by_cases here : (field.1 == name) = true
      · rw [if_pos here, if_pos here, veiled_cons]
      · rw [if_neg here, if_neg here, veiled_cons, inductionHypothesis]

theorem veiled_erase (fields : Fields) (name : String) :
    veiled (fields.erase name) = Fields.erase (veiled fields) name := by
  rw [veiled, veiled, Fields.erase, Fields.erase, List.filter_map]
  rfl

theorem find?_veiled (fields : Fields) (name : String) :
    Fields.find? (veiled fields) name = (fields.find? name).map (veil name) := by
  induction fields with
  | nil => rfl
  | cons field rest inductionHypothesis =>
      rw [veiled_cons]
      unfold Fields.find? at inductionHypothesis ⊢
      rw [List.find?_cons, List.find?_cons]
      cases here : field.1 == name with
      | true => simp only [Option.map_some, beq_iff_eq.mp here]
      | false => exact inductionHypothesis

/-- Veiled states differ in nothing but the host name. -/
def veiledState : Slot Fields → Slot Fields
  | .missing => .missing
  | .null => .null
  | .value fields => .value (veiled fields)

/-- Two requests that are the same but for the host name of the client. -/
structure DiffersInHost (left right : Request) : Prop where
  rest : right = { left with state := right.state }
  state : veiledState left.state = veiledState right.state

namespace DiffersInHost

variable {left right : Request}

theorem refl (request : Request) : DiffersInHost request request := ⟨rfl, rfl⟩

/-- A change that does not look at the state does not tell them apart. -/
theorem map (differs : DiffersInHost left right) (change : Request → Request)
    (blind : ∀ request state,
      change { request with state } = { change request with state }) :
    DiffersInHost (change left) (change right) := by
  have leftState : (change left).state = left.state := by
    have same : change left = { change left with state := left.state } := blind left left.state
    rw [same]
  have changed : change right = { change left with state := right.state } := by
    rw [differs.rest]
    exact blind left right.state
  refine ⟨?_, ?_⟩
  · rw [changed]
  · rw [changed, leftState]
    exact differs.state

theorem withScheme (differs : DiffersInHost left right) (secure : Option Bool) :
    DiffersInHost (left.withScheme secure) (right.withScheme secure) := by
  refine differs.map (fun request => request.withScheme secure) fun request state => ?_
  cases secure <;> rfl

/-- The states of two such requests are of one kind. -/
theorem cases_state (differs : DiffersInHost left right) :
    (left.state = .missing ∧ right.state = .missing) ∨ (left.state = .null ∧ right.state = .null) ∨
      ∃ fields others, left.state = .value fields ∧ right.state = .value others ∧
        veiled fields = veiled others := by
  have state := differs.state
  cases leftState : left.state with
  | missing =>
      cases rightState : right.state with
      | missing => exact Or.inl ⟨rfl, rfl⟩
      | null => simp [leftState, rightState, veiledState] at state
      | value others => simp [leftState, rightState, veiledState] at state
  | null =>
      cases rightState : right.state with
      | missing => simp [leftState, rightState, veiledState] at state
      | null => exact Or.inr (Or.inl ⟨rfl, rfl⟩)
      | value others => simp [leftState, rightState, veiledState] at state
  | value fields =>
      cases rightState : right.state with
      | missing => simp [leftState, rightState, veiledState] at state
      | null => simp [leftState, rightState, veiledState] at state
      | value others =>
          rw [leftState, rightState] at state
          exact Or.inr (Or.inr ⟨fields, others, rfl, rfl, Slot.value.inj state⟩)

/-- The same request with two states that differ in the host name. -/
theorem withFields (differs : DiffersInHost left right) {fields others : Fields}
    (same : veiled fields = veiled others) :
    DiffersInHost { left with state := .value fields } { right with state := .value others } := by
  refine ⟨?_, congrArg Slot.value same⟩
  show { right with state := .value others } = { left with state := .value others }
  rw [differs.rest]

theorem ensureState (differs : DiffersInHost left right) :
    DiffersInHost left.ensureState right.ensureState := by
  have rest := differs.rest
  rcases differs.cases_state with ⟨leftState, rightState⟩ | ⟨leftState, rightState⟩ | ⟨fields, others, leftState, rightState, same⟩
  · rw [Request.ensureState, Request.ensureState, leftState, rightState]
    exact differs.withFields rfl
  · rw [Request.ensureState, Request.ensureState, leftState, rightState]
    exact differs
  · rw [Request.ensureState, Request.ensureState, leftState, rightState]
    exact differs

/-- Entries that do not tell the host name are the same. -/
theorem stateEntry? (differs : DiffersInHost left right) {name : String}
    (notHost : name ≠ remoteHostKey) (notLog : name ≠ accessLogKey) :
    left.stateEntry? name = right.stateEntry? name := by
  unfold Request.stateEntry?
  rcases differs.cases_state with
    ⟨leftState, rightState⟩ | ⟨leftState, rightState⟩ | ⟨fields, others, leftState, rightState, same⟩
  · rw [leftState, rightState]
  · rw [leftState, rightState]
  · have entry := congrArg (fun fields => Fields.find? fields name) same
    simp only [find?_veiled, funext (veil_of_foreign notHost notLog), Option.map_id'] at entry
    rw [leftState, rightState]
    exact congrArg Except.ok entry

theorem serverNameAndPort (differs : DiffersInHost left right) :
    left.serverNameAndPort = right.serverNameAndPort := by
  rw [differs.rest]
  rfl

end DiffersInHost

theorem DiffersInHost.putState {left right : Request} (differs : DiffersInHost left right)
    {name : String} {value other : Datum} (same : veil name value = veil name other) :
    EndAlike DiffersInHost (left.putState name value) (right.putState name other) := by
  unfold Request.putState
  rcases differs.ensureState.cases_state with
    ⟨leftState, rightState⟩ | ⟨leftState, rightState⟩ | ⟨fields, others, leftState, rightState, equal⟩
  · rw [leftState, rightState]
    exact .error _
  · rw [leftState, rightState]
    exact .error _
  · rw [leftState, rightState]
    exact .ok (differs.withFields (by rw [veiled_set, veiled_set, equal, same]))

/-! ### Putting the view on and taking it off -/

/-- Overrides that are the same but for a host name that both of them have, or neither. -/
structure Overrides.DifferInHost (left right : Overrides) : Prop where
  rest : right = { left with remoteHost := right.remoteHost }
  named : left.remoteHost.isSome = right.remoteHost.isSome

namespace ForwardedView

variable (view : ForwardedView) (snapshot : Snapshot) {left right : Request}

/-- Two changes that end alike and differ in the host name alone. -/
def IsAlike (left right : Request × Option Fault) : Prop :=
  DiffersInHost left.1 right.1 ∧ left.2 = right.2

theorem isAlike_markForwarded (differs : DiffersInHost left right) :
    IsAlike (markForwarded left) (markForwarded right) := by
  have put := @DiffersInHost.putState _ _ differs forwardedKey (.bool true) _ rfl
  unfold markForwarded
  generalize left.putState forwardedKey (.bool true) = edited at put ⊢
  generalize right.putState forwardedKey (.bool true) = other at put ⊢
  cases put with
  | error fault => exact ⟨differs, rfl⟩
  | ok marked => exact ⟨marked, rfl⟩

theorem isAlike_setServer (overrides : Overrides) (differs : DiffersInHost left right) :
    IsAlike (view.setServer overrides snapshot left) (view.setServer overrides snapshot right) := by
  have blind : ∀ (request : Request) state,
      view.setServer overrides snapshot { request with state } =
        ({ (view.setServer overrides snapshot request).1 with state },
          (view.setServer overrides snapshot request).2) := by
    intro request state
    unfold setServer
    simp only
    split <;> rfl
  have ended : ∀ (request : Request) state,
      (view.setServer overrides snapshot { request with state }).2 =
        (view.setServer overrides snapshot request).2 := by
    intro request state
    rw [blind]
  refine ⟨differs.map (fun request => (view.setServer overrides snapshot request).1) ?_, ?_⟩
  · intro request state
    exact congrArg Prod.fst (blind request state)
  · rw [differs.rest]
    exact (ended left right.state).symm

theorem isAlike_applyServer (overrides : Overrides) (differs : DiffersInHost left right) :
    IsAlike (view.applyServer overrides snapshot left)
      (view.applyServer overrides snapshot right) := by
  unfold applyServer
  split
  · exact isAlike_markForwarded differs
  · obtain ⟨served, ended⟩ := isAlike_setServer view snapshot overrides differs
    cases set : view.setServer overrides snapshot left with
    | mk changed fault =>
        cases otherSet : view.setServer overrides snapshot right with
        | mk other otherFault =>
            rw [set, otherSet] at served ended
            have same : fault = otherFault := ended
            subst same
            cases fault with
            | none => exact isAlike_markForwarded served
            | some fault => exact ⟨served, rfl⟩

theorem isAlike_applyHeaders (overrides : Overrides) (differs : DiffersInHost left right) :
    IsAlike (view.applyHeaders overrides snapshot left)
      (view.applyHeaders overrides snapshot right) := by
  have written : ∀ headers : List Header,
      DiffersInHost { left with headers := some headers } { right with headers := some headers } :=
    fun headers => differs.map (fun request => { request with headers := some headers })
      fun _ _ => rfl
  unfold applyHeaders
  split
  · exact ⟨written _, rfl⟩
  · exact isAlike_applyServer view snapshot overrides (written _)

/-- Overrides that differ in the host name are put on alike. -/
theorem isAlike_apply {overrides others : Overrides} (same : overrides.DifferInHost others)
    (request : Request) :
    IsAlike (view.apply overrides snapshot request) (view.apply others snapshot request) := by
  have addressed := DiffersInHost.refl
    (request.ensureState.withClient overrides.remoteAddress)
  have rest : ∀ {named other}, DiffersInHost named other →
      IsAlike (view.applyHeaders overrides snapshot (named.withScheme overrides.secure))
        (view.applyHeaders overrides snapshot (other.withScheme overrides.secure)) :=
    fun differs => isAlike_applyHeaders view snapshot overrides (differs.withScheme overrides.secure)
  obtain ⟨shape, named⟩ := same
  unfold apply
  rw [shape]
  cases host : overrides.remoteHost with
  | none =>
      cases other : others.remoteHost with
      | none => exact rest addressed
      | some name => simp [host, other] at named
  | some name =>
      cases other : others.remoteHost with
      | none => simp [host, other] at named
      | some otherName =>
          have put := @DiffersInHost.putState _ _ addressed remoteHostKey (.text name)
            (.text otherName) rfl
          simp only
          generalize (request.ensureState.withClient overrides.remoteAddress).putState remoteHostKey
            (.text name) = edited at put ⊢
          generalize (request.ensureState.withClient overrides.remoteAddress).putState remoteHostKey
            (.text otherName) = other at put ⊢
          cases put with
          | error fault => exact ⟨addressed, rfl⟩
          | ok changed => exact rest changed

/-- Whether the view can be entered, and the snapshot it is entered with, do not depend on the host
name. -/
theorem enter_of_differInHost {overrides others : Overrides} (same : overrides.DifferInHost others)
    (request : Request) :
    (view.enter overrides request).view = (view.enter others request).view ∧
      (view.enter overrides request).fault = (view.enter others request).fault ∧
      DiffersInHost (view.enter overrides request).request (view.enter others request).request := by
  have headers : others.headers = overrides.headers := by rw [same.rest]
  unfold enter
  simp only
  rw [headers]
  split
  · exact ⟨rfl, rfl, .refl request⟩
  · rename_i snapshot captured
    obtain ⟨applied, ended⟩ := isAlike_apply view snapshot same request
    exact ⟨rfl, ended, applied⟩

theorem isAlike_restore (differs : DiffersInHost left right) :
    IsAlike (snapshot.restore left) (snapshot.restore right) := by
  have ends := (differs.map (fun request => { request with
    client := snapshot.client, scheme := snapshot.scheme, server := snapshot.server })
    fun _ _ => rfl).ensureState
  unfold Snapshot.restore
  simp only at ends ⊢
  generalize Request.ensureState _ = first at ends ⊢
  generalize Request.ensureState _ = second at ends ⊢
  have written := ends.map (fun request => { request with headers := some snapshot.headers })
    fun _ _ => rfl
  rcases ends.cases_state with
    ⟨leftState, rightState⟩ | ⟨leftState, rightState⟩ | ⟨fields, others, leftState, rightState, same⟩
  · rw [leftState, rightState]
    cases snapshot.remoteHost <;> exact ⟨ends, rfl⟩
  · rw [leftState, rightState]
    cases snapshot.remoteHost <;> exact ⟨ends, rfl⟩
  · rw [leftState, rightState]
    cases snapshot.remoteHost with
    | none =>
        exact ⟨written.withFields (by rw [veiled_erase, veiled_erase, same]), rfl⟩
    | some host =>
        exact ⟨written.withFields (by rw [veiled_set, veiled_set, same]), rfl⟩

theorem isAlike_exit (differs : DiffersInHost left right) (restore : Bool) :
    IsAlike (view.exit left restore) (view.exit right restore) := by
  unfold exit
  split
  · split
    · exact isAlike_restore _ differs
    · exact ⟨differs, rfl⟩
  · exact ⟨differs, rfl⟩

end ForwardedView

end ForwardedClient.Request
