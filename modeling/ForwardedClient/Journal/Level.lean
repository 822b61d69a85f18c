/-!
Contract: how grave a journal record is.

Owns: levels as numbers, the names of the six known ones, and the reports that the library's
own rules make while they work.

Does not own: where records go and how they are written.
-/

namespace ForwardedClient.Journal

/-- The gravity of a record; any number may occur, six have a name. -/
structure Level where
  number : Int
deriving DecidableEq

namespace Level

def unset : Level := ⟨0⟩
def debug : Level := ⟨10⟩
def info : Level := ⟨20⟩
def warning : Level := ⟨30⟩
def error : Level := ⟨40⟩
def critical : Level := ⟨50⟩

/-- The name of a level; unnamed ones show their number. -/
def name (level : Level) : String :=
  if level = unset then "NOTSET"
  else if level = debug then "DEBUG"
  else if level = info then "INFO"
  else if level = warning then "WARNING"
  else if level = error then "ERROR"
  else if level = critical then "CRITICAL"
  else "Level " ++ toString level.number

end Level

/-- A remark that a rule makes about the input it was given. -/
structure Report where
  level : Level
  message : String
deriving DecidableEq

/-- A remark of interest only when a problem is traced. -/
def Report.trace (message : String) : Report := ⟨.debug, message⟩

end ForwardedClient.Journal
