import ForwardedClient.Journal.Record
import ForwardedClient.Settings.Basic

/-!
Contract: lines of the journal.

Owns: the JSON line, an object with the record, the fields of the request at hand and the
environment, cut if it gets too long, and the line for a terminal, which shows the client.

Does not own: where lines are written.
-/

namespace ForwardedClient.Journal

open ForwardedClient.Data
open ForwardedClient.Settings

variable {foreign : Prop}

/-- The greatest number of characters of a line whose message is not cut. -/
def maxLineSize : Nat := 256 * 1024

def keptMessageSize : Nat := maxLineSize - 1000

def cutMark : String := "... [TRUNCATED]"

/-- A value as JSON shows it: one that JSON cannot write is shown as text. Only if there was no
room to find out, that is reported. -/
def writable (depths : Depths) (value : Datum foreign) : Except LineFault (Datum foreign) :=
  match value.writeJson depths.tried with
  | .ok _ => .ok value
  | .error .nestedTooDeep => .error (.json .nestedTooDeep)
  | .error _ => (tell depths.shown value).map .text

def writableFields (depths : Depths) : Fields foreign → Except LineFault (Fields foreign)
  | [] => .ok []
  | (name, value) :: rest => do
    let first ← writable depths value
    return (name, first) :: (← writableFields depths rest)

/-- The fields of a JSON line: first the record, then the request at hand, which may
overwrite them, then environment, error and further fields. -/
def payload (environment : Environment) (context : Fields foreign) (record : Record foreign)
    (depths : Depths := {}) : Except LineFault (Fields foreign) := do
  let moment ← record.preciseMoment
  let message ← record.message depths
  let base : Fields foreign :=
    [("timestamp", .text moment), ("level", record.levelName), ("logger", record.logger),
      ("message", .text message), ("module", record.moduleName),
      ("function", record.function), ("line", record.line)]
  let described := (base.update context).set "environment" (.text environment.name)
  let reported :=
    match record.error with
    | some error => described.set "exception" (.text (error.text depths))
    | none => described
  return reported.update (← writableFields depths record.extras)

/-- The fields of a line as one object, which has room for values of a depth inside it. -/
def writeFields (fields : Fields foreign) (depths : Depths := {}) : Except LineFault String :=
  ((Datum.object fields).writeJson (depths.line + 1)).mapError LineFault.json

/-- Cuts a message; only text can be cut and marked. -/
def cutMessage (message : Datum foreign) : Except LineFault (Datum foreign) :=
  match message.text? with
  | some text => .ok (.text (String.ofList (text.toList.take keptMessageSize) ++ cutMark))
  | none =>
    match Template.Values.contents message with
    | .object _ | .mapping _ _ => .error .objectCut
    | .list _ => .error (.notJoined "list")
    | .tuple _ => .error (.notJoined "tuple")
    | _ => .error (.notCut message.typeName)

def jsonLine (environment : Environment) (context : Fields foreign) (record : Record foreign)
    (depths : Depths := {}) : Except LineFault String := do
  let fields ← payload environment context record depths
  let line ← writeFields fields depths
  if line.length ≤ maxLineSize then
    return line
  let message ← cutMessage ((fields.find? "message").getD .null)
  writeFields (fields.set "message" message) depths

def onNewLine (text addition : String) : String :=
  if text.toList.getLast? == some '\n' then text ++ addition else text ++ "\n" ++ addition

/-- Whether the record is of the level whose lines are short. -/
def isShort (level : Datum foreign) : Bool :=
  match level.numeral with
  | .int value => value == Level.info.number
  | .float value => value.toInt? == some Level.info.number
  | _ => false

/-- The line of a record for a terminal. Only records of the common level leave out where
they were made; errors and call stacks follow on lines of their own. -/
def terminalLine (context : Fields foreign) (record : Record foreign) (depths : Depths := {}) :
    Except LineFault String := do
  let message ← record.message depths
  let moment ← record.moment
  let client ← tell depths.shown ((context.find? "remote_addr").getD (.text "-"))
  let levelName ← tell depths.shown record.levelName
  let head := moment ++ " - [" ++ client ++ "] " ++ levelName ++ ": "
  let line ←
    if isShort record.level then pure (head ++ message)
    else do
      let moduleName ← tell depths.shown record.moduleName
      let function ← tell depths.shown record.function
      let number ←
        ((Template.wholeOf 'd' record.line).bind Template.checkDecimal).mapError LineFault.template
      pure (head ++ moduleName ++ "." ++ function ++ ":" ++ toString number ++ " - " ++ message)
  let error ←
    if record.errorText.isTruthy then some <$> tell depths.shown record.errorText
    else pure (record.error.map (·.text depths))
  let line := (error.map (onNewLine line)).getD line
  if record.stack.isTruthy then return onNewLine line (← tell depths.shown record.stack)
  else return line

def writeLine (format : LineFormat) (environment : Environment) (context : Fields foreign)
    (record : Record foreign) (depths : Depths := {}) : Except LineFault String :=
  match format with
  | .human => terminalLine context record depths
  | .json => jsonLine environment context record depths

end ForwardedClient.Journal
