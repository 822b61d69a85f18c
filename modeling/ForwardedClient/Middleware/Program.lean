import ForwardedClient.Middleware.Handle

/-!
Contract: applications as lists of actions.

Owns: `Frame`, the request an application was handed and the copy it may go on with, and
`run`, which carries the actions out one after the other, nested handling included.

Does not own: the handling around an application. Handed request and copy hold one state
until either of them is given another.
-/

namespace ForwardedClient.Middleware

open ForwardedClient.Data
open ForwardedClient.Journal
open ForwardedClient.Request

namespace Held

/-- Sets or removes an entry; a state that is let go stays with the others who hold it. -/
def put (held : Held) (entry : Entry) : Held :=
  match entry with
  | .state _ =>
    ⟨held.request.put entry, held.parted.orElse fun _ => held.request.state.get?⟩
  | _ => { held with request := held.request.put entry }

/-- The state that was held in common. -/
def commonState (held : Held) : Option Fields :=
  held.parted.orElse fun _ => held.request.state.get?

/-- What holding a request becomes after a nested call with it. -/
def resume (held nested : Held) : Held :=
  ⟨nested.request, held.parted.orElse fun _ => nested.parted⟩

end Held

/-- The requests of a running application. -/
structure Frame where
  handed : Held
  copied : Option Held := none

namespace Frame

def current (frame : Frame) : Held := frame.copied.getD frame.handed

def setCurrent (frame : Frame) (held : Held) : Frame :=
  if frame.copied.isSome then { frame with copied := some held }
  else { frame with handed := held }

def copy (frame : Frame) : Frame :=
  if frame.copied.isSome then frame
  else { frame with copied := some ⟨frame.handed.request, none⟩ }

/-- The handed request at the end; what the copy did to the state in common shows in it. -/
def close (frame : Frame) : Held :=
  match frame.copied.bind Held.commonState, frame.handed.request.state with
  | some fields, .value _ =>
    { frame.handed with request := { frame.handed.request with state := .value fields } }
  | _, _ => frame.handed

/-- Carries out an edit of the current request that may be refused. -/
def edit (frame : Frame) (change : Request → Except Fault Request) : Except Fault Frame :=
  (change frame.current.request).map fun request =>
    frame.setCurrent { frame.current with request }

end Frame

/-- A running application: its requests, the world, and the failure that ended it. -/
structure Running where
  frame : Frame
  world : World
  failure : Option Failure := none

namespace Running

def note (running : Running) (action : Action) : Running :=
  { running with
    world := running.world.witness
      (.did action running.frame.current.request running.world.context) }

def settle (running : Running) (action : Action) (outcome : Except Fault Frame) : Running :=
  match outcome with
  | .ok frame => { running with frame }.note action
  | .error fault => { running with failure := some (.request fault) }

def ask (running : Running) : Running :=
  let request := running.frame.current.request
  match request.checkKind.bind fun _ => request.ask with
  | .ok answers => { running with world := running.world.witness (.answered answers) }
  | .error fault => { running with failure := some (.request fault) }

/-- Marks the current request as one that outlives its handling. -/
def suspend (running : Running) : Running :=
  match running.frame.current.request.markSuspended with
  | .ok (request, reports) =>
    let frame := running.frame.setCurrent { running.frame.current with request }
    { running with frame, world := running.world.report reports }.note .suspend
  | .error fault => { running with failure := some (.request fault) }

/-- Takes the outcome of a nested call. -/
def resume (running : Running) (action : Action) (outcome : Outcome) : Running :=
  let held := running.frame.current.resume outcome.held
  let running := { running with frame := running.frame.setCurrent held, world := outcome.world }
  match outcome.failure with
  | some failure => { running with failure := some failure }
  | none => running.note action

def close (running : Running) : Outcome :=
  ⟨running.frame.close, running.world, running.failure⟩

end Running

mutual

def perform (lookup : Lookup) (running : Running) : Action → Running
  | .put entries =>
    let held := entries.foldl Held.put running.frame.current
    { running with frame := running.frame.setCurrent held }.note (.put entries)
  | .remove entries =>
    let held := entries.foldl Held.put running.frame.current
    { running with frame := running.frame.setCurrent held }.note (.remove entries)
  | .addHeader header =>
    running.settle (.addHeader header)
      (running.frame.edit fun request => .ok (request.addHeader header))
  | .putState name value =>
    running.settle (.putState name value)
      (running.frame.edit fun request => request.putState name value)
  | .suspend => running.suspend
  | .copy => { running with frame := running.frame.copy }.note .copy
  | .ask => running.ask
  | .fail cause => { running with failure := some cause }
  | .nest settings application =>
    let outcome := handle settings lookup
      (fun request world => (performAll lookup application
        ⟨⟨⟨request, none⟩, none⟩, world.witness (.called request world.context), none⟩).close)
      running.frame.current.request running.world
    running.resume (.nest settings application) outcome

/-- Carries out actions up to the first that fails. -/
def performAll (lookup : Lookup) : List Action → Running → Running
  | [], running => running
  | action :: rest, running =>
    let next := perform lookup running action
    if next.failure.isSome then next else performAll lookup rest next

end

/-- The application that carries out a list of actions. -/
def run (lookup : Lookup) (actions : List Action) : Application := fun request world =>
  (performAll lookup actions
    ⟨⟨⟨request, none⟩, none⟩, world.witness (.called request world.context), none⟩).close

end ForwardedClient.Middleware
