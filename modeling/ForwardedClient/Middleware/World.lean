import ForwardedClient.Request.Entry
import ForwardedClient.Settings.Read

/-!
Contract: what the handling of a request touches besides the request.

Owns: reverse look-ups and how they fail, the actions of an application, the failures that
may end a call, and `World`: the fields of the journal, the remarks, the look-ups made and
the events seen so far.

Does not own: the handling itself.
-/

namespace ForwardedClient.Middleware

open ForwardedClient.Data
open ForwardedClient.Journal
open ForwardedClient.Request

/-- Why a look-up found no name: the system reports a failure, or the address or the name cannot be
encoded. Only these failures are caught. A look-up that fails in any other way ends the call and is
no value of `Lookup`. -/
inductive LookupFailure where
  | unknownHost
  | noSuchName
  | reported (text : String)
  | labelTooLong
  | notEncodable (text : String)
deriving DecidableEq

def LookupFailure.message : LookupFailure → String
  | .unknownHost => "[Errno 1] Unknown host"
  | .noSuchName => "[Errno -2] Name or service not known"
  | .labelTooLong => "label too long"
  | .reported text | .notEncodable text => text

/-- A reverse look-up: the name that goes with an address, or a failure that is caught. -/
abbrev Lookup := String → Except LookupFailure String

inductive Failure where
  | request (fault : Fault)
  | settings (cause : Settings.Failure)
  | raised (message : String)
  | unknownAction (name : String)

/-- What an application does with the request it was handed. -/
inductive Action where
  | put (entries : List Entry)
  | remove (entries : List Entry)
  | addHeader (header : Header)
  | putState (name : String) (value : Datum)
  | suspend
  | copy
  | ask
  | fail (cause : Failure)
  | nest (settings : Settings) (application : List Action)

instance : Inhabited Action := ⟨.copy⟩

/-- What is seen of an application: that it was called, that it did something, and what it
was answered. -/
inductive Event where
  | called (request : Request) (context : Fields)
  | did (action : Action) (request : Request) (context : Fields)
  | answered (answers : Answers)

/-- All that a call touches besides the request. -/
structure World where
  context : Fields := []
  reports : List Report := []
  lookups : List String := []
  events : List Event := []

namespace World

def report (world : World) (reports : List Report) : World :=
  { world with reports := world.reports ++ reports }

def witness (world : World) (event : Event) : World :=
  { world with events := world.events ++ [event] }

def addContext (world : World) (fields : Fields) : World :=
  { world with context := world.context.update fields }

def clearContext (world : World) : World := { world with context := [] }

end World

/-- A computation that may fail; what it did to the world stays. -/
abbrev Step := ExceptT Fault (StateM World)

namespace Step

def report (reports : List Report) : Step Unit := modify fun world => world.report reports

/-- Takes the outcome of a pure rule. -/
def ofExcept {α : Type} (outcome : Except Fault α) : Step α := MonadExcept.ofExcept outcome

end Step

end ForwardedClient.Middleware
