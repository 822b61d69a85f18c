import ForwardedClient.Proofs.Middleware.Program

/-!
Contract: what a request answers once its handling is over.

Owns: the applications that leave the marks of a request alone, the answers that go back to what
they were before the call, and the mark of a forwarded request, which stays.

Does not own: requests that outlive their call, and calls that end before their application runs.
-/

namespace ForwardedClient.Middleware

open ForwardedClient.Data
open ForwardedClient.Journal
open ForwardedClient.Request

/-! ### Marks -/

/-- A change that neither marks a request as one that outlives its call, nor takes such a mark
back, nor the mark that a proxy was believed. -/
structure KeepsMarks (before after : Request) : Prop where
  suspended : after.isSuspended = before.isSuspended
  forwarded : before.isForwarded = .ok true → after.isForwarded = .ok true

namespace KeepsMarks

variable {before between after : Request}

theorem refl (request : Request) : KeepsMarks request request := ⟨rfl, id⟩

theorem trans (first : KeepsMarks before between) (second : KeepsMarks between after) :
    KeepsMarks before after :=
  ⟨second.suspended.trans first.suspended, fun marked => second.forwarded (first.forwarded marked)⟩

/-- Marks are in the state. -/
theorem of_state (keeps : KeepsMarks before between) (state : after.state = between.state) :
    KeepsMarks before after := by
  have entry : ∀ name, after.stateEntry? name = between.stateEntry? name := by
    intro name
    rw [ stateEntry?, stateEntry?, state]
  obtain ⟨suspended, forwarded⟩ := keeps
  refine ⟨?_, fun marked => ?_⟩
  · rw [← suspended, isSuspended, hasMark, entry]
    rfl
  · rw [← forwarded marked, isForwarded, hasMark, entry]
    rfl

theorem of_ownChange (change : IsOwnChange before after) : KeepsMarks before after := by
  refine ⟨?_, change.marked⟩
  rw [isSuspended, hasMark, change.entries suspendedKey (by decide)]
  rfl

end KeepsMarks

/-- Only a state of null cannot be asked for marks. -/
theorem present_of_isSuspended {request : Request} {mark : Bool}
    (answered : request.isSuspended = .ok mark) : request.state ≠ .null := by
  intro null
  simp [isSuspended, hasMark, stateEntry?, null, Except.map] at answered

/-- A request in one piece whose marks are those it was handed on with. -/
structure Held.IsFaithful (handed : Request) (held : Held) : Prop where
  whole : held.parted = none
  marks : KeepsMarks handed held.request

/-- An application that leaves the marks of every request alone. -/
def IsReticent (application : Application) : Prop :=
  ∀ request world, (application request world).held.IsFaithful request

/-! ### Handling -/

theorem finish_parted (view : ForwardedView) (outcome : Outcome) :
    (finish view outcome).held.parted = outcome.held.parted := by
  unfold finish
  split
  · rfl
  · simp only
    split <;> rfl

/-- The handling of a request takes no mark back that its application left. -/
theorem IsReticent.handle {application : Application} (reticent : IsReticent application)
    (settings : Settings) (lookup : Lookup) :
    IsReticent (handle settings lookup application) := by
  intro request world
  have before := KeepsMarks.of_ownChange (isOwnChange_prepare settings lookup request world)
  obtain ⟨-, ended⟩ | ⟨_, -, ⟨-, ended⟩ | ⟨-, ⟨fault, -, ended⟩ | ⟨-, ended⟩⟩⟩ :=
    handle_cases settings lookup application request world
  · rw [ended]
    exact ⟨rfl, .refl request⟩
  · rw [ended]
    exact reticent request world
  · rw [ended]
    exact ⟨rfl, before⟩
  · obtain ⟨whole, marks⟩ := reticent (prepare settings lookup request world).request
      (prepare settings lookup request world).world
    rw [ended]
    exact ⟨(finish_parted _ _).trans whole,
      (before.trans marks).trans (.of_ownChange (isOwnChange_finish _ _))⟩

/-! ### Programs -/

def leavesState : Entry → Bool
  | .state _ => false
  | _ => true

mutual

/-- The actions that leave state and marks alone, but for what is done to them in nested calls. -/
def isReticent : Action → Bool
  | .put entries => entries.all leavesState
  | .remove entries => entries.all leavesState
  | .putState name _ => name != forwardedKey && name != suspendedKey
  | .suspend => false
  | .nest _ application => areReticent application
  | .addHeader _ => true
  | .copy => true
  | .ask => true
  | .fail _ => true

def areReticent : List Action → Bool
  | [] => true
  | action :: rest => isReticent action && areReticent rest

end

/-- The requests of a running application, faithful to the one it was handed. -/
structure Frame.IsFaithful (request : Request) (frame : Frame) : Prop where
  handed : frame.handed.IsFaithful request
  copied : ∀ held, frame.copied = some held → held.IsFaithful request

namespace Frame.IsFaithful

variable {request : Request} {frame : Frame}

theorem current (faithful : frame.IsFaithful request) : frame.current.IsFaithful request := by
  unfold Frame.current
  cases copied : frame.copied with
  | none => exact faithful.handed
  | some held => exact faithful.copied held copied

theorem setCurrent (faithful : frame.IsFaithful request) {held : Held}
    (kept : held.IsFaithful request) : (frame.setCurrent held).IsFaithful request := by
  unfold Frame.setCurrent
  split
  · exact ⟨faithful.handed, fun _ same => Option.some.inj same ▸ kept⟩
  · exact ⟨kept, faithful.copied⟩

theorem copy (faithful : frame.IsFaithful request) : frame.copy.IsFaithful request := by
  unfold Frame.copy
  split
  · exact faithful
  · exact ⟨faithful.handed, fun _ same => Option.some.inj same ▸ ⟨rfl, faithful.handed.marks⟩⟩

/-- What the copy did shows in the state that both hold. -/
theorem close (faithful : frame.IsFaithful request) : frame.close.IsFaithful request := by
  unfold Frame.close
  split
  · rename_i fields state common held
    cases copied : frame.copied with
    | none =>
        rw [copied] at common
        exact absurd common.symm (Option.some_ne_none fields)
    | some copy =>
        obtain ⟨whole, marks⟩ := faithful.copied copy copied
        have same : copy.request.state = .value fields := by
          rw [copied, Option.bind_some, Held.commonState, whole] at common
          cases kept : copy.request.state with
          | value others =>
              rw [kept] at common
              exact congrArg Slot.value (Option.some.inj common)
          | missing =>
              rw [kept] at common
              exact absurd common.symm (Option.some_ne_none fields)
          | null =>
              rw [kept] at common
              exact absurd common.symm (Option.some_ne_none fields)
        exact ⟨faithful.handed.whole, marks.of_state same.symm⟩
  · exact faithful.handed

end Frame.IsFaithful

theorem isFaithful_put {request : Request} {held : Held} (faithful : held.IsFaithful request)
    {entries : List Entry} (leaves : entries.all leavesState = true) :
    (entries.foldl Held.put held).IsFaithful request := by
  induction entries generalizing held with
  | nil => exact faithful
  | cons entry rest inductionHypothesis =>
      rw [List.all_cons, Bool.and_eq_true] at leaves
      refine inductionHypothesis ?_ leaves.2
      cases entry with
      | state content => exact absurd leaves.1 Bool.false_ne_true
      | kind content => exact ⟨faithful.whole, faithful.marks.of_state rfl⟩
      | scheme content => exact ⟨faithful.whole, faithful.marks.of_state rfl⟩
      | path content => exact ⟨faithful.whole, faithful.marks.of_state rfl⟩
      | version content => exact ⟨faithful.whole, faithful.marks.of_state rfl⟩
      | headers content => exact ⟨faithful.whole, faithful.marks.of_state rfl⟩
      | client content => exact ⟨faithful.whole, faithful.marks.of_state rfl⟩
      | server content => exact ⟨faithful.whole, faithful.marks.of_state rfl⟩
      | further name content => exact ⟨faithful.whole, faithful.marks.of_state rfl⟩

theorem keepsMarks_putState {request changed : Request} {name : String} {value : Datum}
    (foreign : (name != forwardedKey && name != suspendedKey) = true)
    (put : request.putState name value = .ok changed) : KeepsMarks request changed := by
  rw [Bool.and_eq_true, bne_iff_ne, bne_iff_ne] at foreign
  have entry := (entries_of_putState put).2
  refine ⟨?_, fun marked => ?_⟩
  · rw [isSuspended, hasMark, entry, if_neg foreign.2]
    rfl
  · rw [isForwarded, hasMark, entry, if_neg foreign.1]
    exact marked

section Run

variable (lookup : Lookup)

theorem isReticent_run_of {actions : List Action}
    (faithful : ∀ request running, running.frame.IsFaithful request →
      (performAll lookup actions running).frame.IsFaithful request) :
    IsReticent (run lookup actions) := by
  intro request world
  have start : (begun request world).frame.IsFaithful request :=
    ⟨⟨rfl, .refl request⟩, fun copy absent => absurd absent.symm (Option.some_ne_none copy)⟩
  rw [run_eq]
  exact (faithful request (begun request world) start).close

theorem isFaithful_settle {request : Request} {running : Running} (action : Action)
    (faithful : running.frame.IsFaithful request) {change : Request → Except Fault Request}
    (keeps : ∀ changed, change running.frame.current.request = .ok changed →
      KeepsMarks running.frame.current.request changed) :
    (running.settle action (running.frame.edit change)).frame.IsFaithful request := by
  unfold Frame.edit
  cases changes : change running.frame.current.request with
  | error fault => exact faithful
  | ok changed =>
      have current := faithful.current
      exact faithful.setCurrent ⟨current.whole, current.marks.trans (keeps changed changes)⟩

mutual

/-- A reticent action leaves faithful requests faithful. A nested call is faithful to the current
request if its own application is, which is why the law is proved for whole lists along with it. -/
theorem isFaithful_perform {request : Request} {running : Running} {action : Action}
    (reticent : isReticent action = true) (faithful : running.frame.IsFaithful request) :
    (perform lookup running action).frame.IsFaithful request := by
  cases action with
  | put entries =>
      rw [perform]
      exact faithful.setCurrent (isFaithful_put faithful.current reticent)
  | remove entries =>
      rw [perform]
      exact faithful.setCurrent (isFaithful_put faithful.current reticent)
  | addHeader header =>
      rw [perform]
      refine isFaithful_settle _ faithful fun changed same => ?_
      exact (KeepsMarks.refl _).of_state (Except.ok.inj same ▸ rfl)
  | putState name value =>
      rw [perform]
      exact isFaithful_settle _ faithful fun changed put => keepsMarks_putState reticent put
  | suspend => exact absurd reticent Bool.false_ne_true
  | copy =>
      rw [perform]
      exact faithful.copy
  | ask =>
      rw [perform, Running.ask]
      split <;> exact faithful
  | fail cause =>
      rw [perform]
      exact faithful
  | nest settings application =>
      have inner : IsReticent (run lookup application) := isReticent_run_of lookup
        fun _ _ start => isFaithful_performAll reticent start
      have nested := inner.handle settings lookup running.frame.current.request running.world
      have current := faithful.current
      rw [perform_nest, Running.resume]
      have resumed : (running.frame.current.resume (handle settings lookup (run lookup application)
          running.frame.current.request running.world).held).IsFaithful request :=
        ⟨by rw [Held.resume, current.whole, nested.whole]; rfl, current.marks.trans nested.marks⟩
      split <;> exact faithful.setCurrent resumed
termination_by sizeOf action

theorem isFaithful_performAll {request : Request} {running : Running} {actions : List Action}
    (reticent : areReticent actions = true) (faithful : running.frame.IsFaithful request) :
    (performAll lookup actions running).frame.IsFaithful request := by
  cases actions with
  | nil =>
      rw [performAll]
      exact faithful
  | cons action rest =>
      rw [areReticent, Bool.and_eq_true] at reticent
      have first := isFaithful_perform reticent.1 faithful
      rw [performAll]
      split
      · exact first
      · exact isFaithful_performAll reticent.2 first
termination_by sizeOf actions

end

/-- A list of reticent actions is a reticent application. -/
theorem isReticent_run {actions : List Action} (reticent : areReticent actions = true) :
    IsReticent (run lookup actions) :=
  isReticent_run_of lookup fun _ _ start => isFaithful_performAll lookup reticent start

end Run

/-! ### Answers -/

theorem clientAddress_of_isRestored {before after : Request} (restored : IsRestored before after) :
    after.clientAddress = before.clientAddress := by
  rw [clientAddress, clientAddress, restored.client]

/-- An entry of null answers like none. -/
theorem filter_unlessNull (entry : Option Datum) :
    (unlessNull entry).filter Datum.isTruthy = entry.filter Datum.isTruthy := by
  unfold unlessNull
  split
  · rfl
  · rfl

theorem remoteHost_of_isRestored {before after : Request} (restored : IsRestored before after) :
    after.remoteHost = before.remoteHost := by
  rw [remoteHost, remoteHost, restored.remoteHost, clientAddress_of_isRestored restored]
  cases before.stateEntry? remoteHostKey with
  | error fault => rfl
  | ok entry =>
      simp only [Except.map, filter_unlessNull]

/-- A request that was entered is marked. -/
theorem isForwarded_of_reached {settings : Settings} {lookup : Lookup} {request : Request}
    {peer : Endpoint} {world : World} (proxied : IsProxied settings request peer)
    (reached : (prepare settings lookup request world).fault = none) :
    (prepare settings lookup request world).request.isForwarded = .ok true := by
  obtain ⟨overrides, resolved, headers, written, resolution, accepts⟩ :=
    prepare_reached proxied reached
  obtain ⟨snapshot, entered, -, preparation⟩ := prepare_eq_of_accepts proxied resolution accepts
  rw [preparation, isForwarded, hasMark, stateEntry?]
  simp only
  rw [find?_publishedFields_of_ne _ _ _ _ (by decide), Fields.find?_set, if_pos rfl]
  rfl

/-- Once a call has given its request back, the request tells client and remote host as before the
call. That it was forwarded it tells from then on, whatever it told before, so that this answer goes
back to what it was only if it was the same already. -/
theorem answers_after_call (settings : Settings) (lookup : Lookup) (application : Application)
    (request : Request) (world : World) (kind : String) (peer : Endpoint)
    (handled : request.kind = some kind) (known : isHandledKind kind = true)
    (proxied : IsProxied settings request peer)
    (reached : (prepare settings lookup request world).fault = none)
    (reticent : IsReticent application) (ended : request.isSuspended = .ok false) :
    let after := (handle settings lookup application request world).held.request
    after.clientAddress = request.clientAddress ∧ after.remoteHost = request.remoteHost ∧
      after.isForwarded = .ok true ∧
      (after.isForwarded = request.isForwarded ↔ request.isForwarded = .ok true) := by
  intro after
  obtain ⟨overrides, resolved, headers, written, resolution, accepts⟩ :=
    prepare_reached proxied reached
  obtain ⟨snapshot, _, _, holds, preparation⟩ := prepare_of_accepts proxied resolution accepts
  have kept : (prepare settings lookup request world).view.snapshot = some snapshot := by
    rw [preparation]
  have shown := KeepsMarks.of_ownChange (isOwnChange_prepare settings lookup request world)
  obtain ⟨-, marks⟩ := reticent (prepare settings lookup request world).request
    (prepare settings lookup request world).world
  have leftEnded := (shown.trans marks).suspended.trans ended
  obtain ⟨restored, restores, isRestored, isKept⟩ := restored_of_holds holds
    (present_of_isSuspended ended) (present_of_isSuspended leftEnded)
  have given : after = restored := by
    show (handle settings lookup application request world).held.request = restored
    rw [handle_of_reached handled known reached, finish_of_ended leftEnded kept restores]
  have marked : after.isForwarded = .ok true := by
    rw [given, isForwarded, hasMark, isKept.entries forwardedKey (by decide)]
    exact marks.forwarded (isForwarded_of_reached proxied reached)
  rw [given] at marked ⊢
  refine ⟨clientAddress_of_isRestored isRestored, remoteHost_of_isRestored isRestored, marked, ?_⟩
  rw [marked]
  exact eq_comm

/-- An application that edits its request, and a copy of it, and has it handled once more under
other settings. -/
def editing : List Action :=
  [.putState remoteHostKey (.text "elsewhere"), .copy, .put [.client .null],
    .nest standardSettings [.putState "seen" (.bool true), .fail (.raised "late")]]

theorem edgeRequest_answers_after_call :
    let after := (handle edgeSettings nowhere (run nowhere editing) edgeRequest {}).held.request
    after.clientAddress = "10.0.0.1" ∧ after.remoteHost = .ok (.text "10.0.0.1") ∧
      after.isForwarded = .ok true ∧ edgeRequest.isForwarded = .ok false := by
  intro after
  obtain ⟨client, host, marked, -⟩ := answers_after_call edgeSettings nowhere (run nowhere editing)
    edgeRequest {} "http" edgePeer rfl (by decide) edgeRequest_proxied edgeRequest_reached
    (isReticent_run nowhere (by decide +kernel)) rfl
  exact ⟨client, host, marked, rfl⟩

/-- Settings under which the same peer is nobody's proxy. -/
def remoteSettings : Settings :=
  { Settings.initial with
    internalProxies := Settings.ProxyPattern.ofReadable "10.0.0.9" (by decide +kernel) }

/-- An application that no proxy's account was given to is told that it was forwarded, once it has
had its request handled under settings that know the peer. -/
theorem nested_call_marks_enclosing_request :
    let prepared := prepare remoteSettings nowhere edgeRequest {}
    let moment := performAll nowhere [.nest edgeSettings []] (begun prepared.request prepared.world)
    prepared.fault = none ∧ prepared.request.isForwarded.toOption = some false ∧
      areReticent [.nest edgeSettings []] = true ∧ moment.failure.isNone = true ∧
      moment.frame.current.request.clientAddress = prepared.request.clientAddress ∧
      moment.frame.current.request.isForwarded.toOption = some true := by
  decide +kernel

end ForwardedClient.Middleware
