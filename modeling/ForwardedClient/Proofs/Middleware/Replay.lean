import ForwardedClient.Proofs.Middleware.Resolution
import ForwardedClient.Proofs.Middleware.Restoration

/-!
Contract: what a second call, and any later one, shows of a request that was handled before.

Owns: the traces that a call leaves on a request, the applications that leave no others, and the
law that these traces change nothing of what later calls show.

Does not own: applications that write into the state, and requests that outlive their calls.
-/

namespace ForwardedClient.Middleware

open ForwardedClient.Data
open ForwardedClient.Journal
open ForwardedClient.Request

/-! ### Edits -/

/-- A request of which at most the client, the scheme, the server and the headers were edited. -/
structure IsEdited (before after : Request) : Prop where
  kind : after.kind = before.kind
  path : after.path = before.path
  version : after.version = before.version
  further : after.further = before.further
  state : after.state = before.state

namespace IsEdited

theorem refl (request : Request) : IsEdited request request := ⟨rfl, rfl, rfl, rfl, rfl⟩

theorem trans {before between after : Request} (first : IsEdited before between)
    (second : IsEdited between after) : IsEdited before after :=
  ⟨second.kind.trans first.kind, second.path.trans first.path,
    second.version.trans first.version, second.further.trans first.further,
    second.state.trans first.state⟩

end IsEdited

/-- An application that makes only such edits, whatever they are and however it ends. -/
def IsDiscreet (application : Application) : Prop :=
  ∀ request world, IsEdited request (application request world).held.request

def isEditedEntry : Entry → Bool
  | .scheme _ | .headers _ | .client _ | .server _ => true
  | _ => false

/-- The actions that make such edits, or none. -/
def isEdit : Action → Bool
  | .put entries | .remove entries => entries.all isEditedEntry
  | .addHeader _ | .ask | .fail _ => true
  | _ => false

section Edits

variable (lookup : Lookup)

theorem isEdited_foldl_put {entries : List Entry} (edits : entries.all isEditedEntry = true)
    (held : Held) : IsEdited held.request (entries.foldl Held.put held).request := by
  induction entries generalizing held with
  | nil => exact .refl _
  | cons entry rest inductionHypothesis =>
      rw [List.all_cons, Bool.and_eq_true] at edits
      have one : IsEdited held.request (held.put entry).request := by
        cases entry with
        | scheme content => exact ⟨rfl, rfl, rfl, rfl, rfl⟩
        | headers content => exact ⟨rfl, rfl, rfl, rfl, rfl⟩
        | client content => exact ⟨rfl, rfl, rfl, rfl, rfl⟩
        | server content => exact ⟨rfl, rfl, rfl, rfl, rfl⟩
        | kind content => exact absurd edits.1 Bool.false_ne_true
        | path content => exact absurd edits.1 Bool.false_ne_true
        | version content => exact absurd edits.1 Bool.false_ne_true
        | further name content => exact absurd edits.1 Bool.false_ne_true
        | state content => exact absurd edits.1 Bool.false_ne_true
      exact one.trans (inductionHypothesis edits.2 (held.put entry))

/-- An edit is made on the handed request as long as no copy was taken. -/
theorem perform_isEdit {action : Action} (edit : isEdit action = true) {running : Running}
    (alone : running.frame.copied = none) :
    (perform lookup running action).frame.copied = none ∧
      IsEdited running.frame.handed.request
        (perform lookup running action).frame.handed.request := by
  have current : running.frame.current = running.frame.handed := by
    rw [Frame.current, alone, Option.getD_none]
  have setCurrent : ∀ held, running.frame.setCurrent held = ⟨held, none⟩ := by
    intro held
    rw [Frame.setCurrent, alone, if_neg (by simp), ← alone]
  cases action with
  | put entries =>
      simp only [perform, Running.note, setCurrent, current]
      exact ⟨trivial, isEdited_foldl_put edit _⟩
  | remove entries =>
      simp only [perform, Running.note, setCurrent, current]
      exact ⟨trivial, isEdited_foldl_put edit _⟩
  | addHeader header =>
      simp only [perform, Frame.edit, Except.map, Running.settle, Running.note, setCurrent, current]
      exact ⟨trivial, rfl, rfl, rfl, rfl, rfl⟩
  | ask =>
      simp only [perform, Running.ask]
      split <;> exact ⟨alone, .refl _⟩
  | fail cause => exact ⟨alone, .refl _⟩
  | putState name value => exact absurd edit Bool.false_ne_true
  | suspend => exact absurd edit Bool.false_ne_true
  | copy => exact absurd edit Bool.false_ne_true
  | nest settings application => exact absurd edit Bool.false_ne_true

theorem performAll_isEdit {actions : List Action} (edits : ∀ action ∈ actions, isEdit action = true)
    {running : Running} (alone : running.frame.copied = none) :
    (performAll lookup actions running).frame.copied = none ∧
      IsEdited running.frame.handed.request
        (performAll lookup actions running).frame.handed.request := by
  induction actions generalizing running with
  | nil =>
      rw [performAll]
      exact ⟨alone, .refl _⟩
  | cons action rest inductionHypothesis =>
      obtain ⟨still, one⟩ := perform_isEdit lookup (edits action List.mem_cons_self) alone
      rw [performAll]
      split
      · exact ⟨still, one⟩
      · obtain ⟨ended, others⟩ := inductionHypothesis
          (fun later member => edits later (List.mem_cons_of_mem action member)) still
        exact ⟨ended, one.trans others⟩

/-- A list of edits is a discreet application. -/
theorem isDiscreet_run {actions : List Action} (edits : ∀ action ∈ actions, isEdit action = true) :
    IsDiscreet (run lookup actions) := by
  intro request world
  obtain ⟨alone, edited⟩ := @performAll_isEdit lookup actions edits
    ⟨⟨⟨request, none⟩, none⟩, world.witness (.called request world.context), none⟩ rfl
  unfold run Running.close Frame.close
  rw [alone]
  exact edited

end Edits

/-! ### Views -/

/-- Two requests that show the same: their states hold the same entries, in whatever order, and all
else is equal. -/
structure IsSameView (left right : Request) : Prop where
  kind : right.kind = left.kind
  path : right.path = left.path
  version : right.version = left.version
  further : right.further = left.further
  scheme : right.scheme = left.scheme
  client : right.client = left.client
  server : right.server = left.server
  headers : right.headers = left.headers
  state : ∃ fields others, left.state = .value fields ∧ right.state = .value others ∧
    ∀ name, others.find? name = fields.find? name

/-! ### Traces -/

/-- A request that calls have left traces on: the mark of a forwarded request and the entry of the
access log, if one is published. Everything else is as it was. -/
structure IsRevisit (settings : Settings) (original before : Request) : Prop where
  same : before = { original with state := before.state }
  present : before.state ≠ .null
  entries : ∀ name, name ≠ forwardedKey →
    (name = accessLogKey → settings.publishesAttributes = false) →
      before.stateFields.find? name = original.stateFields.find? name

theorem find?_nameHost_congr (overrides : Overrides) {fields others : Fields} {name : String}
    (same : others.find? name = fields.find? name) :
    (overrides.nameHost others).find? name = (overrides.nameHost fields).find? name := by
  unfold Overrides.nameHost
  cases overrides.remoteHost with
  | none => exact same
  | some host => rw [Fields.find?_set, Fields.find?_set, same]

/-- What is published depends on no more of the state than the entries that stay. -/
theorem find?_publishedFields_congr (settings : Settings) (request : Request)
    (headers : List Header) {fields others : Fields}
    (same : ∀ name, (name = accessLogKey → settings.publishesAttributes = false) →
      others.find? name = fields.find? name) (name : String) :
    (publishedFields settings request headers others).find? name =
      (publishedFields settings request headers fields).find? name := by
  have host := same remoteHostKey fun log => nomatch log
  unfold publishedFields
  split
  · rw [Fields.find?_set, Fields.find?_set]
    split
    · simp only [attributes, host]
    · rename_i other
      exact same name fun log => absurd log.symm other
  · rename_i silent
    exact same name fun _ => Bool.eq_false_iff.mpr silent

theorem unlessNull_of_ne {entry : Option Datum} (given : entry ≠ some .null) :
    unlessNull entry = entry := by
  unfold unlessNull
  split
  · exact absurd rfl given
  · rfl

/-- The state of a request does not matter to what else is shown of it. -/
theorem enteredRequest_withState (view : ForwardedView) (overrides : Overrides) (request : Request)
    (written : List Header) (state : Slot Fields) :
    view.enteredRequest overrides { request with state } written =
      { view.enteredRequest overrides request written with
        state := .value ((overrides.nameHost (state.get?.getD [])).set
          forwardedKey (.bool true)) } := by
  unfold ForwardedView.enteredRequest
  cases overrides.remoteAddress <;> cases overrides.secure <;> rfl

namespace IsRevisit

variable {settings : Settings} {original before : Request}

theorem refl (present : original.state ≠ .null) : IsRevisit settings original original :=
  ⟨rfl, present, fun _ _ _ => rfl⟩

theorem ensureState_eq (revisit : IsRevisit settings original before) :
    before.ensureState = { original with state := .value before.stateFields } := by
  rw [Request.ensureState_eq, ensureState_state revisit.present]
  generalize before.stateFields = fields
  rw [revisit.same]

theorem isProxied (revisit : IsRevisit settings original before) {peer : Endpoint}
    (proxied : IsProxied settings original peer) : IsProxied settings before peer := by
  refine ⟨?_, proxied.known⟩
  rw [revisit.same]
  exact proxied.client

/-- A view that could be entered on the original can be entered again. -/
theorem accepts (revisit : IsRevisit settings original before) {view : ForwardedView}
    {overrides : Overrides} {headers written : List Header}
    (accepts : view.Accepts overrides original.ensureState headers written) :
    view.Accepts overrides before.ensureState headers written := by
  rw [revisit.ensureState_eq]
  rw [Request.ensureState_eq] at accepts
  exact accepts.withState (Slot.value_ne_null _)

end IsRevisit

section Revisit

variable {settings : Settings} {lookup : Lookup} {original before : Request} {peer : Endpoint}
  {overrides : Overrides} {headers written : List Header}

/-- The state that a call shows of a request, given the fields of the state before. -/
def shownFields (settings : Settings) (overrides : Overrides) (original : Request)
    (written : List Header) (fields : Fields) : Fields :=
  publishedFields settings ((initialView settings).enteredRequest overrides original written)
    written ((overrides.nameHost fields).set forwardedKey (.bool true))

/-- What traces are overwritten, and all other entries are as they were. -/
theorem find?_shownFields_of_isRevisit (revisit : IsRevisit settings original before)
    (name : String) :
    (shownFields settings overrides original written before.stateFields).find? name =
      (shownFields settings overrides original written original.stateFields).find? name := by
  refine find?_publishedFields_congr settings _ _ (fun other quiet => ?_) name
  rw [Fields.find?_set, Fields.find?_set]
  split
  · rfl
  · rename_i unmarked
    exact find?_nameHost_congr overrides (revisit.entries other (Ne.symm unmarked) quiet)

/-- All entries but the remote host and the traces are shown as they are. -/
theorem find?_shownFields_of_ne {fields : Fields} {name : String} (notHost : name ≠ remoteHostKey)
    (unmarked : name ≠ forwardedKey)
    (quiet : name = accessLogKey → settings.publishesAttributes = false) :
    (shownFields settings overrides original written fields).find? name = fields.find? name := by
  have marked : ((overrides.nameHost fields).set forwardedKey (.bool true)).find? name =
      fields.find? name := by
    rw [Fields.find?_set, if_neg (Ne.symm unmarked), find?_nameHost_of_ne overrides fields notHost]
  unfold shownFields
  by_cases log : name = accessLogKey
  · rw [publishedFields, if_neg (by simp [quiet log]), marked]
  · rw [find?_publishedFields_of_ne _ _ _ _ log, marked]

variable (proxied : IsProxied settings original peer)
  (resolution : ∀ world,
    ((resolve settings lookup original.ensureState peer.host).run world).1 = .ok overrides)
  (accepts : (initialView settings).Accepts overrides original.ensureState headers written)
  (revisit : IsRevisit settings original before)

include proxied resolution accepts revisit in
/-- Traces show in nothing but the state. -/
theorem prepare_of_isRevisit (world : World) :
    ∃ snapshot after, snapshot.Holds before ∧
      prepare settings lookup before world =
        ⟨{ initialView settings with snapshot := some snapshot },
          { (initialView settings).enteredRequest overrides original written with
            state := .value
              (shownFields settings overrides original written before.stateFields) },
          after, none⟩ := by
  have headersSame : before.ensureState.headers = original.ensureState.headers := by
    rw [revisit.ensureState_eq, ensureState_eq]
  have decided := resolution world
  rw [← resolve_of_headers settings lookup headersSame] at decided
  obtain ⟨snapshot, after, holds, preparation⟩ := prepare_eq_of_decided
    (revisit.isProxied proxied) decided (revisit.accepts accepts)
  refine ⟨snapshot, after, holds, preparation.trans ?_⟩
  rw [revisit.ensureState_eq, enteredRequest_withState]
  rfl

include revisit in
/-- A request with the state that was shown is not to outlive its call unless the original is. -/
theorem isSuspended_of_shown {left : Request} (present : original.state ≠ .null)
    (unsuspended : original.isSuspended = .ok false)
    (state : left.state =
      .value (shownFields settings overrides original written before.stateFields)) :
    left.isSuspended = .ok false := by
  have leftPresent : left.state ≠ .null := by
    rw [state]
    exact Slot.value_ne_null _
  have kept : left.stateFields.find? suspendedKey =
      original.stateFields.find? suspendedKey := by
    rw [stateFields, state, Slot.get?, Option.getD_some,
      find?_shownFields_of_ne (by decide) (by decide) fun log => absurd log (by decide)]
    exact revisit.entries suspendedKey (by decide) fun log => absurd log (by decide)
  rw [isSuspended, hasMark_eq present] at unsuspended
  rw [isSuspended, hasMark_eq leftPresent, kept, unsuspended]

include revisit in
/-- A request that goes back to what it was before a call keeps no other traces of the call. -/
theorem isRevisit_of_isRestored {left after : Request}
    (named : original.stateFields.find? remoteHostKey ≠ some .null)
    (kind : left.kind = original.kind) (path : left.path = original.path)
    (version : left.version = original.version) (further : left.further = original.further)
    (state : left.state =
      .value (shownFields settings overrides original written before.stateFields))
    (restored : IsRestored before after) (kept : IsKept left after) :
    IsRevisit settings original after := by
  have leftPresent : left.state ≠ .null := by
    rw [state]
    exact Slot.value_ne_null _
  have leftFields : left.stateFields =
      shownFields settings overrides original written before.stateFields := by
    rw [stateFields, state]
    rfl
  have present : after.state ≠ .null := by
    intro null
    have entry := kept.entries suspendedKey (by decide)
    rw [stateEntry?_eq leftPresent, stateEntry?, null] at entry
    cases entry
  refine ⟨?same, present, fun name unmarked quiet => ?entries⟩
  case same =>
    have client := restored.client.trans (congrArg Request.client revisit.same)
    have scheme := restored.scheme.trans (congrArg Request.scheme revisit.same)
    have server := restored.server.trans (congrArg Request.server revisit.same)
    have headers := restored.headers.trans (congrArg Request.headers revisit.same)
    cases after
    simp only [Request.mk.injEq, true_and]
    exact ⟨kept.kind.trans kind, scheme, kept.path.trans path, kept.version.trans version,
      headers, client, server, kept.further.trans further⟩
  case entries =>
    have was := revisit.entries name unmarked quiet
    by_cases isHost : name = remoteHostKey
    · subst isHost
      have entry := restored.remoteHost
      rw [stateEntry?_eq present, stateEntry?_eq revisit.present, was] at entry
      exact (Except.ok.inj entry).trans (unlessNull_of_ne named)
    · have entry := kept.entries name isHost
      rw [stateEntry?_eq present, stateEntry?_eq leftPresent, leftFields,
        find?_shownFields_of_ne isHost unmarked quiet, was] at entry
      exact Except.ok.inj entry

include proxied resolution accepts revisit in
/-- One more call of a discreet application leaves no other traces. -/
theorem isRevisit_handle {application : Application} {kind : String}
    (handled : original.kind = some kind) (known : isHandledKind kind = true)
    (present : original.state ≠ .null)
    (named : original.stateFields.find? remoteHostKey ≠ some .null)
    (unsuspended : original.isSuspended = .ok false) (discreet : IsDiscreet application)
    (world : World) :
    IsRevisit settings original (handle settings lookup application before world).held.request := by
  obtain ⟨snapshot, shownWorld, holds, preparation⟩ :=
    prepare_of_isRevisit proxied resolution accepts revisit world
  have reached : (prepare settings lookup before world).fault = none := by rw [preparation]
  have called : handle settings lookup application before world = _ :=
    handle_of_reached ((congrArg Request.kind revisit.same).trans handled) known reached
  rw [preparation] at called
  have edited := discreet { (initialView settings).enteredRequest overrides original written with
    state := .value (shownFields settings overrides original written before.stateFields) }
    shownWorld
  generalize application _ shownWorld = left at called edited
  have state : left.held.request.state =
      .value (shownFields settings overrides original written before.stateFields) := edited.state
  have leftPresent : left.held.request.state ≠ .null := by
    rw [state]
    exact Slot.value_ne_null _
  obtain ⟨after, restores, restored, kept⟩ := restored_of_holds holds revisit.present leftPresent
  rw [called, finish_of_ended (isSuspended_of_shown revisit present unsuspended state) rfl restores]
  exact isRevisit_of_isRestored revisit named edited.kind edited.path edited.version edited.further
    state restored kept

end Revisit

/-! ### Calls one after the other -/

/-- One of several calls for a request, with the request as it was before. -/
structure Visit where
  request : Request
  world : World
  application : Application

/-- Calls one after the other, each for the request that the one before it left and each in a world
of its own. -/
def visits (settings : Settings) (lookup : Lookup) :
    Request → List (World × Application) → List Visit
  | _, [] => []
  | request, (world, application) :: rest =>
    ⟨request, world, application⟩ ::
      visits settings lookup (handle settings lookup application request world).held.request rest

/-- Whatever the calls before it did, each call finds nothing but traces. -/
theorem isRevisit_of_mem_visits {settings : Settings} {lookup : Lookup} {original : Request}
    {peer : Endpoint} {overrides : Overrides} {headers written : List Header} {kind : String}
    (proxied : IsProxied settings original peer)
    (resolution : ∀ world,
      ((resolve settings lookup original.ensureState peer.host).run world).1 = .ok overrides)
    (accepts : (initialView settings).Accepts overrides original.ensureState headers written)
    (handled : original.kind = some kind) (known : isHandledKind kind = true)
    (present : original.state ≠ .null)
    (named : original.stateFields.find? remoteHostKey ≠ some .null)
    (unsuspended : original.isSuspended = .ok false) {before : Request}
    (revisit : IsRevisit settings original before) {calls : List (World × Application)}
    (discreet : ∀ call ∈ calls, IsDiscreet call.2) :
    ∀ visit ∈ visits settings lookup before calls,
      IsRevisit settings original visit.request := by
  induction calls generalizing before with
  | nil => exact fun visit member => absurd member List.not_mem_nil
  | cons call rest inductionHypothesis =>
      obtain ⟨world, application⟩ := call
      have next := isRevisit_handle proxied resolution accepts revisit handled known present named
        unsuspended (discreet (world, application) List.mem_cons_self) world
      intro visit member
      rcases List.mem_cons.mp member with first | later
      · exact first ▸ revisit
      · exact inductionHypothesis next
          (fun other inside => discreet other (List.mem_cons_of_mem _ inside)) visit later

/-- Calls that follow one another show the same. Let a request from a known proxy have a state that
is not null, with no remote host that is null and no mark of a request that outlives its call, and
let it reach its application once. In any sequence of calls for it, with applications that edit its
client, scheme, server and headers as they like, differently each time, and end as they like, every
call reaches its application and shows it what the first one would. -/
theorem replay_shows_same_view (settings : Settings) (lookup : Lookup) (request : Request)
    (kind : String) (peer : Endpoint) (world : World) (calls : List (World × Application))
    (handled : request.kind = some kind) (known : isHandledKind kind = true)
    (proxied : IsProxied settings request peer)
    (named : request.stateFields.find? remoteHostKey ≠ some .null)
    (unsuspended : request.isSuspended = .ok false)
    (reached : (prepare settings lookup request world).fault = none)
    (discreet : ∀ call ∈ calls, IsDiscreet call.2) :
    ∀ visit ∈ visits settings lookup request calls,
      let shown := prepare settings lookup visit.request visit.world
      shown.fault = none ∧
        handle settings lookup visit.application visit.request visit.world =
          finish shown.view (visit.application shown.request shown.world) ∧
        IsSameView (prepare settings lookup request world).request shown.request := by
  have present : request.state ≠ .null := by
    intro null
    rw [isSuspended, hasMark, stateEntry?, null] at unsuspended
    cases unsuspended
  obtain ⟨overrides, resolved, headers, written, ran, accepts⟩ := prepare_reached proxied reached
  have resolution : ∀ other,
      ((resolve settings lookup request.ensureState peer.host).run other).1 = .ok overrides := by
    intro other
    rw [resolve_isSteady settings lookup request.ensureState peer.host other world, ran]
  intro visit member shown
  have revisit := isRevisit_of_mem_visits proxied resolution accepts handled known present named
    unsuspended (.refl present) discreet visit member
  obtain ⟨_, _, -, first⟩ := prepare_of_isRevisit proxied resolution accepts (.refl present) world
  obtain ⟨_, _, -, later⟩ :=
    prepare_of_isRevisit proxied resolution accepts revisit visit.world
  have reachedAgain : shown.fault = none := by rw [show shown = _ from later]
  refine ⟨reachedAgain, handle_of_reached
    ((congrArg Request.kind revisit.same).trans handled) known reachedAgain, ?_⟩
  rw [first, show shown = _ from later]
  exact ⟨rfl, rfl, rfl, rfl, rfl, rfl, rfl, rfl, _, _, rfl, rfl,
    find?_shownFields_of_isRevisit revisit⟩

/-- An application that edits what it is shown, and fails. -/
def failingEdits : Application :=
  run nowhere
    [.put [.scheme (some "ftp"), .client (.value ⟨"192.0.2.77", none⟩), .headers (some [])],
      .addHeader ⟨hostHeader, { text := "elsewhere.example" }⟩, .fail (.raised "late")]

theorem isDiscreet_failingEdits : IsDiscreet failingEdits := isDiscreet_run nowhere (by decide)

/-- A request that was handled once is left with traces, and shown as before. -/
theorem edgeRequest_replayed :
    ∃ visit ∈ visits edgeSettings nowhere edgeRequest [({}, failingEdits), ({}, failingEdits)],
      visit.request.stateFields.map (·.1) = [forwardedKey, accessLogKey] ∧
        (prepare edgeSettings nowhere visit.request visit.world).fault = none ∧
        IsSameView (prepare edgeSettings nowhere edgeRequest {}).request
          (prepare edgeSettings nowhere visit.request visit.world).request := by
  have seen := replay_shows_same_view edgeSettings nowhere edgeRequest "http" edgePeer {}
    [({}, failingEdits), ({}, failingEdits)] rfl rfl edgeRequest_proxied
    (by simp [edgeRequest, stateFields, Slot.get?, Fields.find?]) rfl edgeRequest_reached
    (by simpa using isDiscreet_failingEdits)
  have traces :
      (handle edgeSettings nowhere failingEdits edgeRequest {}).held.request.stateFields.map (·.1) =
        [forwardedKey, accessLogKey] := by
    decide +kernel
  simp only [visits, List.mem_cons, List.not_mem_nil, or_false, forall_eq_or_imp, forall_eq,
    exists_eq_or_imp, exists_eq_left] at seen ⊢
  obtain ⟨-, reached, -, same⟩ := seen
  exact Or.inr ⟨traces, reached, same⟩

end ForwardedClient.Middleware
