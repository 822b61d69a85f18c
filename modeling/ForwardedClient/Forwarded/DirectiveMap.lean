import ForwardedClient.Forwarded.Element

/-!
Contract: the directives of a request's Forwarded headers, collected by name.

Owns: `DirectiveMap` with its order of first appearance, reading all occurrences of the
header into one map, and writing a map as one header value.

Does not own: the trust walk over the `for` values.
-/

namespace ForwardedClient.Forwarded

open ForwardedClient.Address
open ForwardedClient.Journal
open ForwardedClient.Text

/-- Directive names with their values, in order of first appearance. -/
structure DirectiveMap where
  entries : List (String × List String) := []
deriving DecidableEq

namespace DirectiveMap

def find? (map : DirectiveMap) (name : String) : Option (List String) :=
  (map.entries.find? (·.1 == name)).map (·.2)

/-- The values of a directive; none if it is absent. -/
def values (map : DirectiveMap) (name : String) : List String := (map.find? name).getD []

/-- Changes the values of a directive in its place, or appends it with the values made
from an empty list. -/
def modifyEntry (name : String) (change : List String → List String) :
    List (String × List String) → List (String × List String)
  | [] => [(name, change [])]
  | entry :: rest =>
    if entry.1 == name then (name, change entry.2) :: rest
    else entry :: modifyEntry name change rest

def add (map : DirectiveMap) (name value : String) : DirectiveMap :=
  ⟨modifyEntry name (· ++ [value]) map.entries⟩

/-- Sets the values of a directive; a new directive comes last. -/
def set (map : DirectiveMap) (name : String) (values : List String) : DirectiveMap :=
  ⟨modifyEntry name (fun _ => values) map.entries⟩

def erase (map : DirectiveMap) (name : String) : DirectiveMap :=
  ⟨map.entries.filter (·.1 != name)⟩

/-- Sets the values of a directive, or removes it if there are none. -/
def replace (map : DirectiveMap) (name : String) (values : List String) : DirectiveMap :=
  if values.isEmpty then map.erase name else map.set name values

/-- The map of given names and values; a repeated name keeps its first place and its last
values. -/
def ofList (entries : List (String × List String)) : DirectiveMap :=
  entries.foldl (fun map entry => map.set entry.1 entry.2) {}

/-- Takes one raw pair into the map. -/
def addPair (state : DirectiveMap × List Report) (pair : String × String) :
    DirectiveMap × List Report :=
  match normalize pair.1 pair.2 with
  | (none, reports) => (state.1, state.2 ++ reports)
  | (some (directive, value), reports) => (state.1.add directive value, state.2 ++ reports)

/-- Reads all occurrences of the header into one map, with the remarks made on the way. -/
def read (values : List String) : DirectiveMap × List Report :=
  (values.flatMap pairs).foldl addPair ({}, [])

end DirectiveMap

/-- Whether a text is an IPv6 address, with or without a zone. -/
def isIpv6Text (text : String) : Bool := Address.isIpv6 text.toList

/-- The text before and after the last colon. -/
def splitAtLastColon (text : String) : String × String :=
  let (last, before) := partitionAt (· == ':') text.toList.reverse
  (String.ofList (before.getD []).reverse, String.ofList last.reverse)

/-- Brackets an unbracketed node: an address with a numeric port, else a bare address, else
all before the last colon. -/
def bracket (value : String) : String :=
  let (address, port) := splitAtLastColon value
  if !port.isEmpty && port.toList.all isDigitLike && isIpv6Text address then
    "[" ++ address ++ "]:" ++ port
  else if isIpv6Text value then "[" ++ value ++ "]"
  else "[" ++ address ++ "]:" ++ port

/-- A node as it stands in the header: IPv6 nodes are bracketed and quoted. -/
def quoteNode (value : String) : String :=
  if value.toList.head? == some '[' then "\"" ++ value ++ "\""
  else if value.toList.count ':' < 2 then value
  else "\"" ++ bracket value ++ "\""

def writePair (name value : String) : String :=
  name ++ "=" ++ (if hasAddress (lower name) then quoteNode value else value)

namespace DirectiveMap

/-- The map as one header value: the values of a directive are separated by commas and the
directives by semicolons. -/
def write (map : DirectiveMap) : String :=
  String.intercalate ";" (map.entries.map fun entry =>
    String.intercalate ", " (entry.2.map (writePair entry.1)))

end DirectiveMap

end ForwardedClient.Forwarded
