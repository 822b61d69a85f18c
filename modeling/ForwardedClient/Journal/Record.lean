import ForwardedClient.Data.Json
import ForwardedClient.Data.Template
import ForwardedClient.Journal.Level
import ForwardedClient.Journal.Timestamp
import ForwardedClient.Text.Pieces

/-!
Contract: one record of the journal.

Owns: `Record` with the attributes that every record has and further fields, the message
that follows from template and values, the one-line spelling of an error, and how deep
values may lie inside each other.

Does not own: the fields of the request at hand, and how lines look.
-/

namespace ForwardedClient.Journal

open ForwardedClient.Data
open ForwardedClient.Text

variable {foreign : Prop}

/-- How deep values may lie inside each other: in a line that is written, where it is tried
whether JSON can hold a field, where a field is shown as text, in a message and in what an
error says. What a stack of a thousand calls leaves of it depends on the calls that lead
there; fields are tried at a greater depth of the stack than lines are written. -/
structure Depths where
  line : Nat := 980
  tried : Nat := 980
  shown : Nat := 980
  message : Nat := 980
  error : Nat := 980
  tried_le_line : tried ≤ line := by decide

inductive LineFault where
  | template (cause : Template.Fault)
  | value (cause : ShowFault)
  | json (cause : JsonFault)
  | notCut (typeName : String)
  | notJoined (typeName : String)
  | objectCut
  | notMoment (typeName : String)
deriving DecidableEq

def LineFault.message : LineFault → String
  | .template cause => cause.message
  | .value cause => cause.message
  | .json cause => cause.message
  | .notCut typeName => "'" ++ typeName ++ "' object is not subscriptable"
  | .notJoined typeName =>
    "can only concatenate " ++ typeName ++ " (not \"str\") to " ++ typeName
  | .objectCut => "unhashable type: 'slice'"
  | .notMoment typeName => "'" ++ typeName ++ "' object cannot be interpreted as an integer"

/-- A value as it is shown by itself. -/
def tell (room : Nat) (value : Datum foreign) : Except LineFault String :=
  (value.displayWithin room).mapError LineFault.value

/-- An error that a record reports: its kind and what it was raised with. -/
structure RaisedError (foreign : Prop := False) where
  kind : String
  arguments : List (Datum foreign) := []

namespace RaisedError

/-- What the error says. A missing key is quoted. -/
def detail (error : RaisedError foreign) (depths : Depths) : Except ShowFault String :=
  match error.arguments with
  | [] => .ok ""
  | [argument] =>
    if error.kind == "KeyError" then argument.inspectWithin depths.error
    else argument.displayWithin depths.error
  | arguments => (Datum.tuple arguments).inspectWithin depths.error

/-- The error on one line, unless what it says has several. -/
def text (error : RaisedError foreign) (depths : Depths) : String :=
  match error.detail depths with
  | .error _ => error.kind ++ ": <exception str() failed>"
  | .ok detail => if detail.isEmpty then error.kind else error.kind ++ ": " ++ detail

end RaisedError

/-- A record. An attribute may be overwritten by a value of any type. -/
structure Record (foreign : Prop := False) where
  logger : Datum foreign
  template : Datum foreign
  values : Datum foreign
  levelName : Datum foreign
  level : Datum foreign
  moduleName : Datum foreign
  function : Datum foreign
  line : Datum foreign
  seconds : Datum foreign
  thousandths : Datum foreign
  error : Option (RaisedError foreign) := none
  errorText : Datum foreign := .null
  stack : Datum foreign := .null
  extras : Fields foreign := []

structure RecordSource (foreign : Prop := False) where
  logger : String := "remote_ip"
  level : Level := .info
  path : String := "/app/mod.py"
  line : Int := 10
  template : Datum foreign := .text ""
  values : List (Datum foreign) := []
  function : Option String := none
  error : Option (RaisedError foreign) := none
  stack : Option String := none
  moment : Int := 0
  extras : Fields foreign := []

/-- The name of a file without its folder and its last extension; leading full stops belong
to the name. -/
def moduleOfPath (path : String) : String :=
  let base := (path.toList.reverse.takeWhile (· != '/')).reverse
  let (extension, stem) := partitionAt (· == '.') base.reverse
  match stem with
  | some stem => if stem.all (· == '.') then String.ofList base else String.ofList stem.reverse
  | none => String.ofList extension.reverse

/-- The values of a record: one object that is not empty holds them by name. -/
def valuesOf (values : List (Datum foreign)) : Datum foreign :=
  match values with
  | [value] =>
    match Template.Values.contents value with
    | .object _ | .mapping _ _ => if value.isTruthy then value else .tuple values
    | _ => .tuple values
  | values => .tuple values

namespace Record

/-- Attributes that every record has but no line shows. -/
def hiddenAttributes : List String :=
  ["pathname", "filename", "exc_info", "relativeCreated", "thread", "threadName",
    "processName", "process", "message", "asctime", "taskName", "client_display"]

/-- Sets an attribute, or a further field if no attribute has the name. -/
def set (record : Record foreign) (name : String) (value : Datum foreign) : Record foreign :=
  match name with
  | "name" => { record with logger := value }
  | "msg" => { record with template := value }
  | "args" => { record with values := value }
  | "levelname" => { record with levelName := value }
  | "levelno" => { record with level := value }
  | "module" => { record with moduleName := value }
  | "funcName" => { record with function := value }
  | "lineno" => { record with line := value }
  | "created" => { record with seconds := value }
  | "msecs" => { record with thousandths := value }
  | "exc_text" => { record with errorText := value }
  | "stack_info" => { record with stack := value }
  | _ =>
    if hiddenAttributes.contains name then record
    else { record with extras := record.extras.set name value }

def ofSource (source : RecordSource foreign) : Record foreign :=
  let record : Record foreign :=
    { logger := .text source.logger
      template := source.template
      values := valuesOf source.values
      levelName := .text source.level.name
      level := .int source.level.number
      moduleName := .text (moduleOfPath source.path)
      function := (source.function.map Datum.text).getD .null
      line := .int source.line
      seconds := .int (source.moment.fdiv 1000)
      thousandths := .int (source.moment.fmod 1000)
      error := source.error
      stack := (source.stack.map Datum.text).getD .null }
  source.extras.foldl (fun record field => record.set field.1 field.2) record

/-- The message: the template alone, or filled with the values if there are any. -/
def message (record : Record foreign) (depths : Depths) : Except LineFault String := do
  let template ← tell depths.message record.template
  if record.values.isTruthy then
    (fillTemplate depths.message template record.values).mapError LineFault.template
  else .ok template

/-- A number of seconds or thousandths, rounded down. -/
def wholeMoment (value : Datum foreign) : Except LineFault Int :=
  match value.numeral with
  | .int value => .ok value
  | .bool value => .ok (if value then 1 else 0)
  | .float (.finite negative mantissa exponent) =>
    let (numerator, denominator) := scaleRatio 2 mantissa 1 exponent
    .ok (if negative then -((numerator + denominator - 1) / denominator : Nat)
      else (numerator / denominator : Nat))
  | _ => .error (.notMoment value.typeName)

def moment (record : Record foreign) : Except LineFault String :=
  (wholeMoment record.seconds).map momentText

def preciseMoment (record : Record foreign) : Except LineFault String := do
  let seconds ← wholeMoment record.seconds
  let thousandths ← wholeMoment record.thousandths
  return preciseMomentText seconds thousandths

end Record

end ForwardedClient.Journal
