import ForwardedClient.Proofs.Middleware.Program
import ForwardedClient.Proofs.Middleware.Progress

/-!
Contract: which fields the journal is tied to while a request is handled.

Owns: the fields that a call publishes, the moments of its application at which they are still
there, and the fields that are left when the call has ended.

Does not own: how journal lines show these fields.
-/

namespace ForwardedClient.Middleware

open ForwardedClient.Data
open ForwardedClient.Journal
open ForwardedClient.Request

/-! ### Publishing -/

/-- The fields by which the journal is tied to a request. -/
def introduction (request : Request) (name : Option String) : Fields :=
  [("remote_addr", Settings.optionalText (request.client.get?.map (·.host))),
    ("scheme", Settings.optionalText request.scheme),
    ("server_name", Settings.optionalText name)]

/-- The journal is tied to a request that reaches its application, and to no other. -/
structure IsIntroduced (before : World) (prepared : Prepared) : Prop where
  reached : prepared.fault = none → ∃ name port,
    prepared.request.serverNameAndPort = .ok (name, port) ∧
      prepared.world.context = before.context.update (introduction prepared.request name)
  failed : prepared.fault ≠ none → prepared.world.context = before.context

theorem set_ne_nil (fields : Fields) (name : String) (value : Datum) :
    fields.set name value ≠ [] := by
  cases fields with
  | nil => exact List.cons_ne_nil _ _
  | cons field rest =>
      rw [Fields.set]
      split <;> exact List.cons_ne_nil _ _

theorem update_introduction_ne_nil (fields : Fields) (request : Request) (name : Option String) :
    fields.update (introduction request name) ≠ [] :=
  set_ne_nil _ "server_name" _

section Prepare

variable (settings : Settings) (lookup : Lookup)

/-- Looking at the peer reports and looks up, and touches nothing else of the world. -/
theorem approach_keeps {γ : Type} (part : World → γ)
    (unreported : ∀ world reports, part (World.report world reports) = part world)
    (unlooked : ∀ world address,
      part { world with lookups := world.lookups ++ [address] } = part world)
    (prepared : Prepared) :
    part (approach settings lookup prepared).world = part prepared.world := by
  unfold approach
  simp only
  split
  · exact unreported _ _
  · rename_i address known
    have kept := resolve_keeps part unreported unlooked settings lookup prepared.request address
      prepared.world
    split
    · rename_i overrides world ran
      rw [ran] at kept
      exact (applyOverrides_keeps part unreported overrides _).trans kept
    · rename_i fault world ran
      rw [ran] at kept
      exact kept

/-- What comes before the application is no event. -/
theorem prepare_events (request : Request) (world : World) :
    (prepare settings lookup request world).world.events = world.events := by
  rw [prepare_eq, andThen_keeps World.events (introduce_keeps World.events fun _ _ => rfl),
    andThen_keeps World.events (publish_keeps World.events settings),
    approach_keeps settings lookup World.events (fun _ _ => rfl) fun _ _ => rfl]

theorem isIntroduced_introduce {prepared : Prepared} (unfailed : prepared.fault = none) :
    IsIntroduced prepared.world (introduce prepared) := by
  cases served : prepared.request.serverNameAndPort with
  | error fault =>
      have refused : introduce prepared = { prepared with fault := some fault } := by
        simp only [introduce, served]
      rw [refused]
      exact ⟨fun reached => absurd reached (Option.some_ne_none fault), fun _ => rfl⟩
  | ok server =>
      obtain ⟨name, port⟩ := server
      have introduced : introduce prepared =
          { prepared with
            world := prepared.world.addContext (introduction prepared.request name) } := by
        simp only [introduce, served, introduction]
      rw [introduced]
      exact ⟨fun _ => ⟨name, port, served, rfl⟩, fun failed => absurd unfailed failed⟩

theorem isIntroduced_prepare (request : Request) (world : World) :
    IsIntroduced world (prepare settings lookup request world) := by
  obtain ⟨before, kept, same⟩ : ∃ before : Prepared, before.world.context = world.context ∧
      prepare settings lookup request world = before.andThen introduce :=
    ⟨_, by rw [andThen_keeps World.context (publish_keeps World.context settings),
      approach_keeps settings lookup World.context (fun _ _ => rfl) fun _ _ => rfl], prepare_eq⟩
  rw [same]
  cases failed : before.fault with
  | none =>
      have introduced := isIntroduced_introduce failed
      have next : before.andThen introduce = introduce before := by
        rw [Prepared.andThen, failed, Option.isNone_none, if_pos rfl]
      rw [next]
      exact ⟨kept ▸ introduced.reached, kept ▸ introduced.failed⟩
  | some fault =>
      have next : before.andThen introduce = before := by
        rw [Prepared.andThen, failed, Option.isNone_some, if_neg Bool.false_ne_true]
      rw [next]
      exact ⟨fun reached => absurd (failed.symm.trans reached) (Option.some_ne_none fault),
        fun _ => kept⟩

end Prepare

/-! ### The moments of an application -/

/-- The call of an application by the handling of its request. -/
def isCall : Event → Bool
  | .called request _ => request.kind.any isHandledKind
  | _ => false

/-- A later world: the journal is tied to what it was tied to, unless a request was handled since. -/
def IsLater (before after : World) : Prop :=
  ∃ since, after.events = before.events ++ since ∧
    after.context = if since.any isCall then [] else before.context

/-- The end of a call whose application left a state of null. -/
def stateless : Failure := .request (.nullState .get)

namespace IsLater

variable {before between after : World}

theorem refl (world : World) : IsLater world world :=
  ⟨[], (List.append_nil _).symm, rfl⟩

theorem trans (first : IsLater before between) (second : IsLater between after) :
    IsLater before after := by
  obtain ⟨since, events, context⟩ := first
  obtain ⟨further, moreEvents, laterContext⟩ := second
  refine ⟨since ++ further, by rw [moreEvents, events, List.append_assoc], ?_⟩
  rw [laterContext, context, List.any_append]
  cases since.any isCall <;> cases further.any isCall <;> rfl

theorem witness (world : World) {event : Event} (other : isCall event = false) :
    IsLater world (world.witness event) :=
  ⟨[event], rfl, by rw [List.any_cons, other]; rfl⟩

theorem report (world : World) (reports : List Report) : IsLater world (world.report reports) :=
  refl world

theorem note (running : Running) (action : Action) :
    IsLater running.world (running.note action).world :=
  witness running.world rfl

theorem settle (running : Running) (action : Action) (outcome : Except Fault Frame) :
    IsLater running.world (running.settle action outcome).world := by
  cases outcome with
  | ok frame => exact note { running with frame } action
  | error fault => exact refl running.world

end IsLater

/-- An application that announces its call first, and is then tied to the journal as long as it
handles no request. -/
def IsAnnounced (application : Application) : Prop :=
  ∀ request world, (application request world).failure ≠ some stateless →
    IsLater (begun request world).world (application request world).world

/-- A call that reached its application unties the journal, as the events show. -/
theorem isLater_handle (settings : Settings) (lookup : Lookup) {application : Application}
    (announced : IsAnnounced application) (request : Request) (world : World)
    (stated : (handle settings lookup application request world).failure ≠ some stateless) :
    IsLater world (handle settings lookup application request world).world := by
  have events := prepare_events settings lookup request world
  have introduced := isIntroduced_prepare settings lookup request world
  obtain ⟨-, ended⟩ | ⟨kind, handled, ⟨known, ended⟩ | ⟨known, ⟨fault, failed, ended⟩ |
    ⟨reached, ended⟩⟩⟩ := handle_cases settings lookup application request world
  · rw [ended]
    exact .refl world
  · rw [ended] at stated ⊢
    refine (IsLater.witness world ?_).trans (announced request world stated)
    rw [isCall, handled, Option.any_some, known]
  · rw [ended]
    refine ⟨[], ?_, introduced.failed (by rw [failed]; exact Option.some_ne_none fault)⟩
    rw [List.append_nil, events]
  · rw [ended] at stated ⊢
    have present : (application (prepare settings lookup request world).request
        (prepare settings lookup request world).world).held.request.state ≠ .null :=
      fun null => stated (finish_failure_of_null _ null)
    obtain ⟨_, finished⟩ := finish_of_present (prepare settings lookup request world).view present
    rw [finished] at stated ⊢
    obtain ⟨since, later, -⟩ := announced _ _ stated
    refine ⟨.called (prepare settings lookup request world).request
      (prepare settings lookup request world).world.context :: since, ?_, ?_⟩
    · show (application _ _).world.events = _
      rw [later, ← events]
      exact List.append_assoc _ _ _
    · rw [List.any_cons, isCall, (isOwnChange_prepare settings lookup request world).kind,
        handled, Option.any_some, known]
      rfl

section Run

variable (lookup : Lookup)

theorem isAnnounced_run {actions : List Action}
    (later : ∀ running, (performAll lookup actions running).failure ≠ some stateless →
      IsLater running.world (performAll lookup actions running).world) :
    IsAnnounced (run lookup actions) := by
  intro request world stated
  rw [run_eq] at stated ⊢
  exact later (begun request world) stated

theorem isLater_resume {running : Running} (action : Action) {outcome : Outcome}
    (later : outcome.failure ≠ some stateless → IsLater running.world outcome.world)
    (stated : (running.resume action outcome).failure ≠ some stateless) :
    IsLater running.world (running.resume action outcome).world := by
  unfold Running.resume at stated ⊢
  cases failed : outcome.failure with
  | none => exact (later (failed ▸ (Option.some_ne_none stateless).symm)).trans (.note _ action)
  | some failure =>
      simp only [failed] at stated ⊢
      exact later (by rwa [failed])

mutual

/-- Every action leads to a later world. A nested call runs its own application to its end, which
is why the members of that application are among those the law is proved for. -/
theorem isLater_perform (running : Running) (action : Action)
    (stated : (perform lookup running action).failure ≠ some stateless) :
    IsLater running.world (perform lookup running action).world := by
  cases action with
  | put entries =>
      rw [perform]
      exact .note _ _
  | remove entries =>
      rw [perform]
      exact .note _ _
  | addHeader header =>
      rw [perform]
      exact .settle _ _ _
  | putState name value =>
      rw [perform]
      exact .settle _ _ _
  | suspend =>
      rw [perform, Running.suspend]
      cases marked : running.frame.current.request.markSuspended with
      | error fault => exact .refl _
      | ok marks => exact (IsLater.report running.world marks.2).trans (.note _ _)
  | copy =>
      rw [perform]
      exact .note _ _
  | ask =>
      rw [perform, Running.ask]
      split
      · exact .witness _ rfl
      · exact .refl _
  | fail cause =>
      rw [perform]
      exact .refl _
  | nest settings application =>
      have announced := isAnnounced_run lookup fun running => isLater_performAll running application
      rw [perform_nest] at stated ⊢
      exact isLater_resume _ (isLater_handle settings lookup announced _ _) stated
termination_by sizeOf action

theorem isLater_performAll (running : Running) (actions : List Action)
    (stated : (performAll lookup actions running).failure ≠ some stateless) :
    IsLater running.world (performAll lookup actions running).world := by
  cases actions with
  | nil =>
      rw [performAll]
      exact .refl _
  | cons action rest =>
      have first := isLater_perform running action
      rw [performAll] at stated ⊢
      by_cases failed : (perform lookup running action).failure.isSome = true
      · rw [if_pos failed] at stated ⊢
        exact first stated
      · rw [if_neg failed] at stated ⊢
        have unfailed : (perform lookup running action).failure ≠ some stateless := by
          intro same
          rw [same] at failed
          exact failed rfl
        exact (first unfailed).trans (isLater_performAll _ rest stated)
termination_by sizeOf actions

end

end Run

/-- The fields that a call publishes stay with its application as long as this one has no request
handled itself: the first such call unties the journal, and nothing ties it again. After every call
that reached its application the journal is tied to nothing, whatever it was tied to before, unless
the application left a state of null; a call that did not reach it leaves the journal alone. -/
theorem journal_scope (settings : Settings) (lookup : Lookup) (actions : List Action)
    (request : Request) (world : World) (kind : String) (handled : request.kind = some kind)
    (known : isHandledKind kind = true) :
    let prepared := prepare settings lookup request world
    let start := begun prepared.request prepared.world
    let left := run lookup actions prepared.request prepared.world
    let after := handle settings lookup (run lookup actions) request world
    IsIntroduced world prepared ∧
      (prepared.fault = none →
        (∀ done rest, actions = done ++ rest →
          (performAll lookup done start).failure = none →
            performAll lookup actions start =
                performAll lookup rest (performAll lookup done start) ∧
              ∃ since, (performAll lookup done start).world.events = start.world.events ++ since ∧
                ((performAll lookup done start).world.context = prepared.world.context ↔
                  since.any isCall = false) ∧
                (since.any isCall = true → (performAll lookup done start).world.context = [])) ∧
          (left.held.request.state ≠ .null → after.world.context = []) ∧
          (left.held.request.state = .null → after.world.context = left.world.context)) ∧
      (prepared.fault ≠ none → after.world.context = world.context) := by
  intro prepared start left after
  have introduced : IsIntroduced world prepared := isIntroduced_prepare settings lookup request world
  refine ⟨introduced, fun reached => ⟨?_, ?_⟩, fun unreached => ?_⟩
  · rintro done rest rfl unfailed
    obtain ⟨name, port, -, published⟩ := introduced.reached reached
    have filled : prepared.world.context ≠ [] := by
      rw [published]
      exact update_introduction_ne_nil _ _ _
    obtain ⟨since, events, context⟩ := isLater_performAll lookup start done
      (unfailed ▸ (Option.some_ne_none stateless).symm)
    refine ⟨performAll_append lookup rest unfailed, since, events, ?_, ?_⟩
    · rw [context]
      cases since.any isCall with
      | true => exact ⟨fun same => absurd same.symm filled, fun called =>
          absurd called.symm Bool.false_ne_true⟩
      | false => exact ⟨fun _ => rfl, fun _ => rfl⟩
    · intro called
      rw [context, if_pos called]
  · have called : after = finish prepared.view left := handle_of_reached handled known reached
    refine ⟨fun present => ?_, fun null => ?_⟩
    · obtain ⟨_, ended⟩ := finish_of_present prepared.view present
      rw [called, ended]
      rfl
    · rw [called, finish_of_null prepared.view null]
  · obtain ⟨fault, failed⟩ := Option.ne_none_iff_exists'.mp unreached
    have ended : after = ⟨⟨prepared.request, none⟩, prepared.world, some (.request fault)⟩ :=
      handle_of_unreached handled known failed
    rw [ended]
    exact introduced.failed unreached

/-- A world in which the journal was tied to something before the call. -/
def nightly : World := { context := [("job", .text "nightly")] }

/-- An application that has its request handled once more before it asks. -/
def inquiring : List Action := [.nest edgeSettings [.ask], .ask]

theorem nightly_journal_scope :
    edgeRequest.kind = some "http" ∧ isHandledKind "http" = true ∧
      (prepare edgeSettings nowhere edgeRequest nightly).fault = none ∧
      IsIntroduced nightly (prepare edgeSettings nowhere edgeRequest nightly) ∧
      (handle edgeSettings nowhere (run nowhere inquiring) edgeRequest nightly).world.context =
        [] := by
  have reached : (prepare edgeSettings nowhere edgeRequest nightly).fault = none := by
    decide +kernel
  have present : (run nowhere inquiring (prepare edgeSettings nowhere edgeRequest nightly).request
      (prepare edgeSettings nowhere edgeRequest nightly).world).held.request.state ≠ .null := by
    intro null
    have absent := congrArg (fun state => state.get?.isSome) null
    exact absurd absent (by decide +kernel)
  obtain ⟨introduced, ended, -⟩ := journal_scope edgeSettings nowhere inquiring edgeRequest nightly
    "http" rfl (by decide)
  exact ⟨rfl, by decide, reached, introduced, (ended reached).2.1 present⟩

/-- After a nested call the journal is tied to nothing, and what it was tied to before a call is
gone after it. -/
theorem nested_call_unties_journal :
    let prepared := prepare edgeSettings nowhere edgeRequest nightly
    let start := begun prepared.request prepared.world
    let moment := performAll nowhere [.nest edgeSettings []] start
    prepared.fault = none ∧ moment.failure.isNone = true ∧
      start.world.context.map (·.1) = ["job", "remote_addr", "scheme", "server_name"] ∧
      moment.world.context.isEmpty = true ∧
      (handle edgeSettings nowhere (run nowhere []) edgeRequest nightly).world.context.isEmpty =
        true := by
  decide +kernel

end ForwardedClient.Middleware
