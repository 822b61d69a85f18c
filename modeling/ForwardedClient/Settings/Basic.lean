import ForwardedClient.Address.Port
import ForwardedClient.Data.Basic
import ForwardedClient.Proofs.Pattern.Room
import ForwardedClient.Trust.Rules

/-!
Contract: how the program is configured.

Owns: `Settings` with ports in range and patterns that have been read, the names of the
fields, the trust rules and the header names that follow from them, and the settings as
named values.

Does not own: how settings are read.
-/

namespace ForwardedClient.Settings

open ForwardedClient.Data
open ForwardedClient.Pattern
open ForwardedClient.Trust

inductive Environment where
  | dev
  | staging
  | production
deriving DecidableEq, Inhabited

namespace Environment

def name : Environment → String
  | .dev => "dev"
  | .staging => "staging"
  | .production => "production"

def all : List Environment := [.dev, .staging, .production]

def ofName? (name : String) : Option Environment :=
  all.find? fun environment => environment.name == name

theorem ofName?_name (environment : Environment) : ofName? environment.name = some environment := by
  cases environment <;> decide

end Environment

inductive LineFormat where
  | human
  | json
deriving DecidableEq, Inhabited

namespace LineFormat

def name : LineFormat → String
  | .human => "human"
  | .json => "json"

def all : List LineFormat := [.human, .json]

def ofName? (name : String) : Option LineFormat := all.find? fun format => format.name == name

theorem ofName?_name (format : LineFormat) : ofName? format.name = some format := by
  cases format <;> decide

end LineFormat

structure ProxyPattern where
  text : String
  node : Node
  reads : Node.read text = .ok node
deriving DecidableEq

namespace ProxyPattern

def read (text : String) (room : Nat := stackRoom) : Except PatternError ProxyPattern :=
  match reads : Node.readWithin room text with
  | .ok node => .ok ⟨text, node, read_of_readWithin reads⟩
  | .error cause => .error cause

/-- The pattern of a text that is known to be readable. -/
def ofReadable (text : String) (readable : (Node.read text).isOk = true) : ProxyPattern :=
  match reads : Node.read text with
  | .ok node => ⟨text, node, reads⟩
  | .error _ => absurd readable (by simp [reads, Except.isOk, Except.toBool])

/-- The pattern as it is compared with addresses; an empty text stands for none. -/
def toAddressPattern? (pattern : ProxyPattern) : Option AddressPattern :=
  if pattern.text.isEmpty then none else some ⟨pattern.text, pattern.node⟩

theorem read_eq_ok_iff {text : String} {room : Nat} {pattern : ProxyPattern} :
    read text room = .ok pattern ↔
      pattern.text = text ∧ Node.readWithin room text = .ok pattern.node := by
  unfold read
  split
  · rename_i node reads
    constructor
    · intro same
      rw [← Except.ok.inj same]
      exact ⟨rfl, reads⟩
    · obtain ⟨own, tree, ownReads⟩ := pattern
      rintro ⟨rfl, same⟩
      obtain rfl := Except.ok.inj (reads.symm.trans same)
      rfl
  · rename_i cause fails
    refine ⟨nofun, fun ⟨_, same⟩ => ?_⟩
    rw [fails] at same
    cases same

theorem read_eq_error_iff {text : String} {room : Nat} {cause : PatternError} :
    read text room = .error cause ↔ Node.readWithin room text = .error cause := by
  unfold read
  split
  · rename_i node reads
    refine ⟨nofun, fun same => ?_⟩
    rw [reads] at same
    cases same
  · rename_i other fails
    constructor
    · intro same
      rw [fails, Except.error.inj same]
    · intro same
      rw [Except.error.inj (fails.symm.trans same)]

theorem text_ofReadable {text : String} (readable : (Node.read text).isOk = true) :
    (ofReadable text readable).text = text := by
  unfold ofReadable
  split
  · rfl
  · rename_i cause fails
    rw [fails] at readable
    cases readable

/-- The room that the default patterns take, which have no parentheses: a choice of repetitions. -/
def leastRoom : Nat := 3

theorem readable_defaultInternal : (Node.readWithin leastRoom defaultInternal).isOk = true := by
  decide +kernel

theorem readable_empty : (Node.readWithin leastRoom "").isOk = true := by decide +kernel

/-- The pattern of the private and loopback blocks. -/
def privateBlocks : ProxyPattern :=
  ofReadable defaultInternal (isOk_read_of_readWithin readable_defaultInternal)

def unset : ProxyPattern := ofReadable "" (isOk_read_of_readWithin readable_empty)

theorem readable_privateBlocks : (Node.readWithin leastRoom privateBlocks.text).isOk = true := by
  rw [privateBlocks, text_ofReadable]
  exact readable_defaultInternal

theorem readable_unset : (Node.readWithin leastRoom unset.text).isOk = true := by
  rw [unset, text_ofReadable]
  exact readable_empty

end ProxyPattern

abbrev PortNumber := Fin (Address.maxPort + 1)

end Settings

open ForwardedClient.Data
open ForwardedClient.Settings

structure Settings where
  environment : Environment := .dev
  logFilePath : String := "logs/logging_errors.log"
  logLevel : String := "INFO"
  consoleFormat : LineFormat := .human
  clientHeader : String := "X-Forwarded-For"
  proxiesHeader : String := "X-Forwarded-By"
  protocolHeader : Option String := none
  secureValue : String := "https"
  portHeader : Option String := none
  hostHeader : Option String := none
  internalProxies : ProxyPattern := ProxyPattern.privateBlocks
  trustedProxies : ProxyPattern := ProxyPattern.unset
  plainPort : PortNumber := ⟨80, by decide⟩
  securePort : PortNumber := ⟨443, by decide⟩
  standardHeaderOnly : Bool := false
  publishesAttributes : Bool := true
  changesLocalName : Bool := false
  changesLocalPort : Bool := false
  looksUpNames : Bool := false

namespace Settings

def standardHeader : String := "Forwarded"

def rules (settings : Settings) : Trust.Rules :=
  ⟨settings.internalProxies.toAddressPattern?, settings.trustedProxies.toAddressPattern?⟩

def managedHeaders (settings : Settings) : List String :=
  if settings.standardHeaderOnly then [standardHeader]
  else [settings.proxiesHeader, settings.clientHeader]

/-- The fields that can be set by name, in their order. -/
inductive Field where
  | environment
  | logFilePath
  | logLevel
  | consoleFormat
  | clientHeader
  | proxiesHeader
  | protocolHeader
  | secureValue
  | portHeader
  | hostHeader
  | internalProxies
  | trustedProxies
  | plainPort
  | securePort
  | standardHeaderOnly
  | publishesAttributes
  | changesLocalName
  | changesLocalPort
  | looksUpNames
deriving DecidableEq

namespace Field

def all : List Field :=
  [.environment, .logFilePath, .logLevel, .consoleFormat, .clientHeader, .proxiesHeader,
    .protocolHeader, .secureValue, .portHeader, .hostHeader, .internalProxies,
    .trustedProxies, .plainPort, .securePort, .standardHeaderOnly, .publishesAttributes,
    .changesLocalName, .changesLocalPort, .looksUpNames]

def name : Field → String
  | .environment => "ENV"
  | .logFilePath => "LOG_FILE_PATH"
  | .logLevel => "LOG_LEVEL"
  | .consoleFormat => "LOG_CONSOLE_FORMAT"
  | .clientHeader => "REMOTE_IP_HEADER"
  | .proxiesHeader => "PROXIES_HEADER"
  | .protocolHeader => "PROTOCOL_HEADER"
  | .secureValue => "PROTOCOL_HEADER_HTTPS_VALUE"
  | .portHeader => "PORT_HEADER"
  | .hostHeader => "HOST_HEADER"
  | .internalProxies => "INTERNAL_PROXIES"
  | .trustedProxies => "TRUSTED_PROXIES"
  | .plainPort => "HTTP_SERVER_PORT"
  | .securePort => "HTTPS_SERVER_PORT"
  | .standardHeaderOnly => "SUPPORT_RFC7239_ONLY"
  | .publishesAttributes => "REQUEST_ATTRIBUTES_ENABLED"
  | .changesLocalName => "CHANGE_LOCAL_NAME"
  | .changesLocalPort => "CHANGE_LOCAL_PORT"
  | .looksUpNames => "ENABLE_LOOKUPS"

theorem mem_all (field : Field) : field ∈ all := by cases field <;> decide

theorem name_injective {left right : Field} (same : left.name = right.name) : left = right := by
  cases left <;> cases right <;> first | rfl | (exact absurd same (by decide))

end Field

section Values

variable {foreign : Prop}

def optionalText (text : Option String) : Datum foreign := (text.map Datum.text).getD .null

def value (settings : Settings) : Field → Datum foreign
  | .environment => .text settings.environment.name
  | .logFilePath => .text settings.logFilePath
  | .logLevel => .text settings.logLevel
  | .consoleFormat => .text settings.consoleFormat.name
  | .clientHeader => .text settings.clientHeader
  | .proxiesHeader => .text settings.proxiesHeader
  | .protocolHeader => optionalText settings.protocolHeader
  | .secureValue => .text settings.secureValue
  | .portHeader => optionalText settings.portHeader
  | .hostHeader => optionalText settings.hostHeader
  | .internalProxies => .text settings.internalProxies.text
  | .trustedProxies => .text settings.trustedProxies.text
  | .plainPort => .int settings.plainPort.val
  | .securePort => .int settings.securePort.val
  | .standardHeaderOnly => .bool settings.standardHeaderOnly
  | .publishesAttributes => .bool settings.publishesAttributes
  | .changesLocalName => .bool settings.changesLocalName
  | .changesLocalPort => .bool settings.changesLocalPort
  | .looksUpNames => .bool settings.looksUpNames

def toFields (settings : Settings) : Fields foreign :=
  Field.all.map fun field => (field.name, settings.value field)

end Values

end Settings

end ForwardedClient
