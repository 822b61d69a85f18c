import ForwardedClient.CommandLine.Command
import ForwardedClient.CommandLine.HeaderOption
import ForwardedClient.CommandLine.Simulation
import ForwardedClient.Console.Panel
import ForwardedClient.Console.Table
import ForwardedClient.Settings.FaultText

/-!
Contract: what the program does for its arguments.

Owns: `Outcome`, the lines that are printed and how the program ends, the tables of a
resolved request and of the settings, and `run`.

Does not own: printing. A failure that breaks the program off leaves the lines printed before
it.
-/

namespace ForwardedClient.CommandLine

open ForwardedClient.Console
open ForwardedClient.Data
open ForwardedClient.Middleware (Lookup)
open ForwardedClient.Text

inductive Failure where
  | usage (fault : UsageFault)
  | settings (cause : Settings.Failure)
  | notLatin (cause : EncodeError)
  | handling (cause : Middleware.Failure)
  | markup (fault : MarkupFault)

/-- How the program ends: its exit code, and where a server is to listen. -/
structure Ending where
  exitCode : Nat := 0
  server : Option ServerAddress := none

/-- The printed lines and how the program ends. -/
structure Outcome where
  lines : List String := []
  ending : Except Failure Ending

def consoleWidth : Nat := 200

/-! ### Resolving a request -/

/-- The values of settings that options replace. -/
def ResolveOptions.changes {foreign : Prop} (options : ResolveOptions) : Fields foreign :=
  let change (field : Settings.Field) (value : Option (Datum foreign)) : Fields foreign :=
    (value.map fun value => (field.name, value)).toList
  change .trustedProxies (options.trusted.map .text) ++
    change .internalProxies (options.internal.map .text) ++
    change .standardHeaderOnly (options.standardOnly.map .bool)

def faultPanel (given : Fields) (faults : List Settings.Fault) : Panel :=
  ⟨"Error", "[red]Invalid input[/red]\n\n" ++ Settings.faultText given faults⟩

def resolutionTable (incoming seen : Description) : Table :=
  let styled (point : String × String) : String :=
    let value := (seen.find? point.1).getD ""
    let style := if value == point.2 then "dim" else "green"
    "[" ++ style ++ "]" ++ value ++ "[/" ++ style ++ "]"
  ⟨"Forwarded resolution",
    [⟨"Field", incoming.map (·.1)⟩, ⟨"Incoming", incoming.map (·.2)⟩,
      ⟨"Seen by application", incoming.map styled⟩]⟩

def resolutionOutcome (incoming : Description) (simulated : Simulated) : Outcome :=
  match (resolutionTable incoming simulated.seen).draw consoleWidth with
  | .error fault => ⟨[""], .error (.markup fault)⟩
  | .ok table =>
    if simulated.restored == incoming then
      ⟨[""] ++ table ++ ["", "✓ Request restored after downstream completed", ""], .ok {}⟩
    else
      ⟨[""] ++ table ++ ["", "✗ Request was not restored"], .ok { exitCode := 1 }⟩

/-- Reads the headers of the options up to the first that cannot be read. -/
def readHeaders (headers : List String) : Except UsageFault (List (String × String)) :=
  headers.mapM fun header =>
    match readHeaderOption header with
    | some entry => .ok entry
    | none => .error (.unreadableHeader header)

def resolveUnder (settings : Settings) (lookup : Lookup) (options : ResolveOptions) :
    Except Failure (Description × Simulated) := do
  let headers ← (readHeaders options.headers).mapError .usage
  let client : Client := ⟨options.peer, options.host, options.scheme, headers⟩
  let request ← client.request.mapError .notLatin
  let incoming ← (describe (shownHeaders settings) request).mapError fun fault =>
    .handling (.request fault)
  let simulated ← (simulate settings lookup request).mapError .handling
  return (incoming, simulated)

/-- Shows how a request is resolved. Faults of the settings are shown in a panel. -/
def resolve (settings : Settings) (lookup : Lookup) (options : ResolveOptions)
    (foreign : Prop := False) (reader : Settings.Reader foreign := .lax) : Outcome :=
  match settings.override options.changes [] reader with
  | .error (.faults faults) =>
    match (faultPanel (settings.toFields.update options.changes) faults).draw consoleWidth with
    | .error fault => ⟨[], .error (.markup fault)⟩
    | .ok panel => ⟨panel, .ok { exitCode := 1 }⟩
  | .error cause => ⟨[], .error (.settings cause)⟩
  | .ok settings =>
    match resolveUnder settings lookup options with
    | .error failure => ⟨[], .error failure⟩
    | .ok (incoming, simulated) => resolutionOutcome incoming simulated

/-! ### Showing the settings -/

/-- The environment as it is shown among the settings. -/
def shownEnvironment : Settings.Environment → String
  | .dev => "Environment.DEV"
  | .staging => "Environment.STAGING"
  | .production => "Environment.PRODUCTION"

def shownSetting (settings : Settings) (field : Settings.Field) : String :=
  match field, (settings.value field : Datum) with
  | .environment, _ => shownEnvironment settings.environment
  | _, .null => "[dim]unset[/dim]"
  | _, value => if value.display.isEmpty then "[dim]unset[/dim]" else value.display

def settingsTable (settings : Settings) : Table :=
  ⟨"Remote IP Settings",
    [⟨"Setting", Settings.Field.all.map fun field => "[cyan]" ++ field.name ++ "[/cyan]"⟩,
      ⟨"Value", Settings.Field.all.map (shownSetting settings)⟩]⟩

def config (settings : Settings) : Outcome :=
  match (settingsTable settings).draw consoleWidth with
  | .error fault => ⟨[""], .error (.markup fault)⟩
  | .ok table => ⟨[""] ++ table ++ [""], .ok {}⟩

/-! ### The program -/

def perform (settings : Settings) (lookup : Lookup) : Command → Outcome
  | .help => ⟨[], .ok {}⟩
  | .resolve options => resolve settings lookup options
  | .config => config settings
  | .serve address => ⟨[], .ok { server := some address }⟩

def run (settings : Settings) (lookup : Lookup) (arguments : List String) : Outcome :=
  match Command.parse arguments with
  | .error fault => ⟨[], .error (.usage fault)⟩
  | .ok command => perform settings lookup command

end ForwardedClient.CommandLine
