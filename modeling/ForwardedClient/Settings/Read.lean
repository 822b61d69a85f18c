import ForwardedClient.Settings.Reader

/-!
Contract: reading settings from given values and environment variables.

Owns: `Settings.read`. A given value wins over a variable, all faults are reported together
in the order of the fields, names that are no field come last, and the journal's defaults
follow the environment.

Does not own: what a field makes of a value.
-/

namespace ForwardedClient.Settings

open ForwardedClient.Data

variable {foreign : Prop}

structure Source (foreign : Prop := False) where
  given : Fields foreign := []
  exported : List (String × String) := []

namespace Source

def find? (source : Source foreign) (field : Field) : Option (Datum foreign) :=
  match source.given.find? field.name with
  | some value => some value
  | none =>
    (source.exported.find? fun entry => entry.1 == field.name).map fun entry =>
      .text entry.2

end Source

/-! ### Gathering -/

/-- A value, or the faults of all that was read for it. -/
def Checked (α : Type) : Type := Except (List Fault) α

/-- Applies a function to an argument; the faults of both are kept. -/
def Checked.apply {α β : Type} (function : Checked (α → β)) (argument : Checked α) : Checked β :=
  match function, argument with
  | .ok function, .ok argument => .ok (function argument)
  | .ok _, .error faults => .error faults
  | .error faults, .ok _ => .error faults
  | .error faults, .error others => .error (faults ++ others)

/-- Reads a field, or takes its default. -/
def Source.read {α : Type} (source : Source foreign) (field : Field) (fallback : α)
    (take : Datum foreign → Except Complaint α) : Checked α :=
  match source.find? field with
  | none => .ok fallback
  | some value =>
    match take value with
    | .ok result => .ok result
    | .error complaint => .error [⟨field.name, complaint⟩]

def initial : Settings := {}

def readFields (source : Source foreign) (reader : Reader foreign) : Checked Settings :=
  let start : Checked _ := .ok Settings.mk
  start
    |>.apply (source.read .environment initial.environment reader.environment)
    |>.apply (source.read .logFilePath initial.logFilePath reader.text)
    |>.apply (source.read .logLevel initial.logLevel reader.text)
    |>.apply (source.read .consoleFormat initial.consoleFormat reader.format)
    |>.apply (source.read .clientHeader initial.clientHeader reader.text)
    |>.apply (source.read .proxiesHeader initial.proxiesHeader reader.text)
    |>.apply (source.read .protocolHeader initial.protocolHeader reader.maybeText)
    |>.apply (source.read .secureValue initial.secureValue reader.text)
    |>.apply (source.read .portHeader initial.portHeader reader.maybeText)
    |>.apply (source.read .hostHeader initial.hostHeader reader.maybeText)
    |>.apply (source.read .internalProxies initial.internalProxies reader.pattern)
    |>.apply (source.read .trustedProxies initial.trustedProxies reader.pattern)
    |>.apply (source.read .plainPort initial.plainPort reader.port)
    |>.apply (source.read .securePort initial.securePort reader.port)
    |>.apply (source.read .standardHeaderOnly initial.standardHeaderOnly reader.switch)
    |>.apply (source.read .publishesAttributes initial.publishesAttributes reader.switch)
    |>.apply (source.read .changesLocalName initial.changesLocalName reader.switch)
    |>.apply (source.read .changesLocalPort initial.changesLocalPort reader.switch)
    |>.apply (source.read .looksUpNames initial.looksUpNames reader.switch)

def unknownFields (source : Source foreign) : List Fault :=
  (source.given.filter fun entry => !(Field.all.any fun field => field.name == entry.1)).map
    fun entry => ⟨entry.1, .unknownField⟩

/-! ### Defaults of an environment -/

def Environment.logLevel : Environment → String
  | .dev => "DEBUG"
  | .staging => "INFO"
  | .production => "WARNING"

def Environment.consoleFormat : Environment → LineFormat
  | .dev => .human
  | .staging | .production => .json

/-- Journal fields that no source sets follow the environment. -/
def withEnvironment (source : Source foreign) (settings : Settings) : Settings :=
  { settings with
    logLevel := if (source.find? .logLevel).isNone then settings.environment.logLevel
      else settings.logLevel
    consoleFormat :=
      if (source.find? .consoleFormat).isNone then settings.environment.consoleFormat
      else settings.consoleFormat }

def read (source : Source foreign) (reader : Reader foreign := .lax) : Except Failure Settings :=
  match readFields source reader, unknownFields source with
  | .ok settings, [] => .ok (withEnvironment source settings)
  | .ok _, faults => .error (.ofFaults faults)
  | .error faults, others => .error (.ofFaults (faults ++ others))

/-- Reads the settings that differ from others in some given values. -/
def override (settings : Settings) (changes : Fields foreign)
    (exported : List (String × String) := []) (reader : Reader foreign := .lax) :
    Except Failure Settings :=
  read ⟨settings.toFields.update changes, exported⟩ reader

end ForwardedClient.Settings
