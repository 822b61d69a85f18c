import ForwardedClient.Journal.Line
import ForwardedClient.Text.Case
import ForwardedClient.Text.Quoted

/-!
Contract: where the journal is written.

Owns: `Sinks`, the terminal and the error file with their thresholds and formats, how they
are set up from settings, and which lines a record puts into them.

Does not own: files and terminals themselves.
-/

namespace ForwardedClient.Journal

open ForwardedClient.Data
open ForwardedClient.Settings
open ForwardedClient.Text

variable {foreign : Prop}

/-- The levels that can be configured, with their second names. -/
def Level.ofName? (name : String) : Option Level :=
  ([("NOTSET", Level.unset), ("DEBUG", .debug), ("INFO", .info), ("WARNING", .warning),
    ("WARN", .warning), ("ERROR", .error), ("CRITICAL", .critical), ("FATAL", .critical)].find?
      fun entry => entry.1 == name).map (·.2)

/-- A place that takes the lines of records from some level on. -/
structure Sink where
  threshold : Level
  format : LineFormat
  text : String := ""
deriving DecidableEq

/-- The journal's level and its places. -/
structure Sinks where
  level : Level
  terminal : Sink
  file : Option Sink
deriving DecidableEq

def fallbackLevel : Level := .warning

namespace Sink

/-- Writes a record if it is grave enough. A record that cannot be written is left out. -/
def write (sink : Sink) (environment : Environment) (context : Fields foreign) (level : Level)
    (record : Record foreign) (depths : Depths := {}) : Sink :=
  if level.number < sink.threshold.number then sink
  else
    match writeLine sink.format environment context record depths with
    | .ok line => { sink with text := sink.text ++ line ++ "\n" }
    | .error _ => sink

end Sink

namespace Sinks

def effectiveLevel (sinks : Sinks) : Level :=
  if sinks.level = .unset then fallbackLevel else sinks.level

/-- Hands a record of some level over to the places. -/
def write (sinks : Sinks) (environment : Environment) (context : Fields foreign) (level : Level)
    (record : Record foreign) (depths : Depths := {}) : Sinks :=
  if level.number < sinks.effectiveLevel.number then sinks
  else
    { sinks with
      terminal := sinks.terminal.write environment context level record depths
      file := sinks.file.map fun file => file.write environment context level record depths }

def fileWarning (path : String) : RecordSource :=
  { level := .warning
    path := "logging"
    line := 0
    function := some "setup_logging"
    template := .text ("Error log file disabled: [Errno 2] No such file or directory: " ++
      quoted path) }

/-- Sets the journal up. `unopened` is the path of the error file if it cannot be opened;
then there is a warning instead of the file. The fault is a name that no level has. -/
def setUp (environment : Environment) (levelName format : String) (unopened : Option String)
    (context : Fields) : Except String Sinks :=
  let name := upper levelName
  match Level.ofName? name with
  | none => .error name
  | some level =>
    let format := if lower format == LineFormat.human.name then .human else .json
    let sinks : Sinks := { level, terminal := ⟨.debug, format, ""⟩, file := none }
    match unopened with
    | none => .ok { sinks with file := some ⟨.error, .json, ""⟩ }
    | some path =>
      let warning := fileWarning path
      .ok (sinks.write environment context warning.level (Record.ofSource warning))

end Sinks

end ForwardedClient.Journal
