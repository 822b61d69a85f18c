import ForwardedClient.CommandLine.Run

/-!
Contract: the program.

Owns: `main`, which reads the settings from the environment, runs the command that its
arguments name and prints what comes of it.

Does not own: any decision. Host names are not looked up here, and listening is left to the
server, which is told the address.
-/

namespace ForwardedClient

open ForwardedClient.CommandLine

def settingVariables : IO (List (String × String)) := do
  let found ← Settings.Field.all.mapM fun field => do
    let value ← IO.getEnv field.name
    return value.map fun value => (field.name, value)
  return found.filterMap id

/-- The words for settings that cannot be accepted; `given` holds what was given for them. -/
def settingsText (given : Data.Fields) : Settings.Failure → String
  | .brokeOff text cause => cause.message text
  | .faults faults => Settings.faultText given faults

def handlingText : Middleware.Failure → String
  | .request fault => fault.message
  | .settings cause => settingsText [] cause
  | .raised message => message
  | .unknownAction name => name

/-- The words with which the program breaks off. -/
def failureText : CommandLine.Failure → String
  | .usage fault => fault.message
  | .settings cause => settingsText [] cause
  | .notLatin cause => cause.message
  | .handling cause => handlingText cause
  | .markup fault => fault.message

/-- Wrong usage has an exit code of its own. -/
def failureCode : CommandLine.Failure → UInt32
  | .usage _ => 2
  | _ => 1

def report (outcome : Outcome) : IO UInt32 := do
  outcome.lines.forM IO.println
  match outcome.ending with
  | .error failure =>
    IO.eprintln ("Error: " ++ failureText failure)
    return failureCode failure
  | .ok ending =>
    ending.server.forM fun server =>
      IO.println ("Server address: " ++ Address.formatHost server.host (some server.port))
    return UInt32.ofNat ending.exitCode

end ForwardedClient

open ForwardedClient in
def main (arguments : List String) : IO UInt32 := do
  let exported ← settingVariables
  match Settings.read ({ exported } : Settings.Source) with
  | .error cause =>
    let given := exported.map fun entry => (entry.1, Data.Datum.text entry.2)
    IO.eprintln (settingsText given cause)
    return 1
  | .ok settings =>
    report (CommandLine.run settings (fun _ => .error .unknownHost) arguments)
