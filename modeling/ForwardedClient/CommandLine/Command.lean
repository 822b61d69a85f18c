import ForwardedClient.CommandLine.Arguments
import ForwardedClient.Settings.WholeNumber

/-!
Contract: the commands of the program and their arguments.

Owns: `Command`, what is to be done, and `Command.parse`, which reads it from arguments.

Does not own: how commands are carried out.
-/

namespace ForwardedClient.CommandLine

/-- A request to resolve, and the settings that are changed for it. -/
structure ResolveOptions where
  peer : String
  host : String := "localhost"
  scheme : String := "http"
  headers : List String := []
  trusted : Option String := none
  internal : Option String := none
  standardOnly : Option Bool := none
deriving DecidableEq

structure ServerAddress where
  host : String := "0.0.0.0"
  port : Int := 8000
deriving DecidableEq

inductive Command where
  | help
  | resolve (options : ResolveOptions)
  | config
  | serve (address : ServerAddress)
deriving DecidableEq

namespace Command

inductive OptionKind where
  | help
  | peer
  | header
  | host
  | scheme
  | trusted
  | internal
  | standardOnly
  | bind
  | port
deriving DecidableEq, BEq

def helpSpellings : List (Spelling OptionKind) := [⟨"--help", .help, some true⟩]

def resolveSpellings : List (Spelling OptionKind) :=
  [⟨"--peer", .peer, none⟩, ⟨"-p", .peer, none⟩, ⟨"--header", .header, none⟩,
    ⟨"-H", .header, none⟩, ⟨"--host", .host, none⟩, ⟨"--scheme", .scheme, none⟩,
    ⟨"--trusted", .trusted, none⟩, ⟨"-t", .trusted, none⟩, ⟨"--internal", .internal, none⟩,
    ⟨"-i", .internal, none⟩, ⟨"--rfc7239", .standardOnly, some true⟩,
    ⟨"--legacy", .standardOnly, some false⟩] ++ helpSpellings

def serveSpellings : List (Spelling OptionKind) :=
  [⟨"--bind", .bind, none⟩, ⟨"-b", .bind, none⟩, ⟨"--port", .port, none⟩] ++ helpSpellings

def refuseOthers {α : Type} (parsed : Parsed α) (command : Command) : Except UsageFault Command :=
  if parsed.others.isEmpty then .ok command else .error (.extraArguments parsed.others)

/-- The options of the command that resolves a request; the peer must be given. -/
def readResolve (parsed : Parsed OptionKind) : Except UsageFault Command :=
  match parsed.text? .peer with
  | none => .error (.missingOption ["--peer", "-p"])
  | some peer =>
    refuseOthers parsed (.resolve
      { peer
        host := (parsed.text? .host).getD "localhost"
        scheme := (parsed.text? .scheme).getD "http"
        headers := parsed.texts .header
        trusted := parsed.text? .trusted
        internal := parsed.text? .internal
        standardOnly := parsed.choice? .standardOnly })

def readServe (parsed : Parsed OptionKind) : Except UsageFault Command :=
  match (parsed.text? .port).map Settings.readWhole with
  | some (.error complaint) => .error (.unreadableOption "--port" complaint.message)
  | port =>
    let port := (port.bind fun outcome => outcome.toOption).getD 8000
    refuseOthers parsed (.serve ⟨(parsed.text? .bind).getD "0.0.0.0", port⟩)

/-- The commands by name, with their options and what is made of them. -/
def readers :
    List (String × List (Spelling OptionKind) × (Parsed OptionKind → Except UsageFault Command)) :=
  [("resolve", resolveSpellings, readResolve),
    ("config", helpSpellings, fun parsed => refuseOthers parsed .config),
    ("serve", serveSpellings, readServe)]

/-- Whether help was asked for; that goes before all but a misspelt option. -/
def asksHelp (parsed : Parsed OptionKind) : Bool := (parsed.choice? .help).isSome

def ofName (name : String) (arguments : List String) : Except UsageFault Command :=
  match readers.find? fun entry => entry.1 == name with
  | none => .error (.unknownCommand name (similar name (readers.map (·.1))))
  | some (_, spellings, reader) => do
    let parsed ← parseArguments spellings true arguments
    if asksHelp parsed then return .help
    reader parsed

def parse (arguments : List String) : Except UsageFault Command := do
  let parsed ← parseArguments helpSpellings false arguments
  if asksHelp parsed then return .help
  match parsed.others with
  | [] => .error .missingCommand
  | name :: rest => ofName name rest

end Command

end ForwardedClient.CommandLine
