import ForwardedClient.Data.Basic
import ForwardedClient.Data.DecimalText
import ForwardedClient.Text.Quoted

/-!
Contract: how values are shown in messages.

Owns: `display`, where a text stands for itself, and `inspect`, where texts are quoted, as
they are inside lists and objects; the first reason why a value cannot be shown.

Does not own: JSON, and how much room there is for values inside each other.
-/

namespace ForwardedClient.Data

open ForwardedClient.Text

variable {foreign : Prop}

def Container.ellipsis : Container → String
  | .list => "[...]"
  | .tuple => "(...)"
  | .object => "\x7b...\x7d"

/-- What an attempt to show an object yields, nothing if it fails. -/
def shownOrNothing : Except ShowFault String → String
  | .ok text => text
  | .error _ => ""

def faultOf? : Except ShowFault String → Option ShowFault
  | .ok _ => none
  | .error fault => some fault

namespace Datum

/-! ### Texts -/

def setText (frozen : Bool) (shown : List String) : String :=
  let members := if shown.isEmpty then "" else "\x7b" ++ String.intercalate ", " shown ++ "\x7d"
  if frozen then "frozenset(" ++ members ++ ")"
  else if shown.isEmpty then "set()"
  else members

mutual

def inspect : Datum foreign → String
  | .null => "None"
  | .bool value => if value then "True" else "False"
  | .int value => toString value
  | .float value => value.text
  | .text value => quoted value
  | .bytes value => quotedBytes value
  | .list items => "[" ++ String.intercalate ", " (inspectAll items) ++ "]"
  | .tuple items =>
    match inspectAll items with
    | [only] => "(" ++ only ++ ",)"
    | shown => "(" ++ String.intercalate ", " shown ++ ")"
  | .object fields => "\x7b" ++ String.intercalate ", " (inspectFields fields) ++ "\x7d"
  | .set _ frozen items => setText frozen (inspectAll items)
  | .mapping _ entries => "\x7b" ++ String.intercalate ", " (inspectEntries entries) ++ "\x7d"
  | .other _ thing _ => shownOrNothing thing.inspected
  | .enclosing _ container => container.ellipsis

def inspectAll : List (Datum foreign) → List String
  | [] => []
  | item :: rest => inspect item :: inspectAll rest

def inspectFields : List (String × Datum foreign) → List String
  | [] => []
  | (name, value) :: rest => (quoted name ++ ": " ++ inspect value) :: inspectFields rest

def inspectEntries : List (Datum foreign × Datum foreign) → List String
  | [] => []
  | (key, value) :: rest => (inspect key ++ ": " ++ inspect value) :: inspectEntries rest

end

def display : Datum foreign → String
  | .text value => value
  | .other _ thing _ => shownOrNothing thing.displayed
  | value => inspect value

/-! ### Faults -/

/-- Opens one more value, as long as there is room. -/
def openShown (room : Nat) (inner : Nat → Option ShowFault) : Option ShowFault :=
  match room with
  | 0 => some .nestedTooDeep
  | room + 1 => inner room

mutual

/-- Why a value cannot be shown inside of others; the first reason in the order of its parts. -/
def inspectFault? (room : Nat) : Datum foreign → Option ShowFault
  | .int value => openShown room fun _ => if isLong value then some .tooLong else none
  | .list items | .tuple items => openShown room fun room => allFault? room items
  | .object fields => openShown room fun room => fieldsFault? room fields
  | .set _ _ items =>
    openShown room fun room =>
      if items.isEmpty then none else openShown room fun room => allFault? room items
  | .mapping _ entries => openShown room fun room => entriesFault? room entries
  | .other _ thing _ => openShown room fun _ => faultOf? thing.inspected
  | _ => openShown room fun _ => none

def allFault? (room : Nat) : List (Datum foreign) → Option ShowFault
  | [] => none
  | item :: rest => (inspectFault? room item).or (allFault? room rest)

def fieldsFault? (room : Nat) : List (String × Datum foreign) → Option ShowFault
  | [] => none
  | (_, value) :: rest => (inspectFault? room value).or (fieldsFault? room rest)

def entriesFault? (room : Nat) : List (Datum foreign × Datum foreign) → Option ShowFault
  | [] => none
  | (key, value) :: rest =>
    ((inspectFault? room key).or (inspectFault? room value)).or (entriesFault? room rest)

end

/-- Why a value cannot be shown by itself. -/
def displayFault? (room : Nat) : Datum foreign → Option ShowFault
  | .text _ => none
  | .other _ thing _ => faultOf? thing.displayed
  | value => inspectFault? room value

def displayWithin (room : Nat) (value : Datum foreign) : Except ShowFault String :=
  match value.displayFault? room with
  | some fault => .error fault
  | none => .ok value.display

def inspectWithin (room : Nat) (value : Datum foreign) : Except ShowFault String :=
  match value.inspectFault? room with
  | some fault => .error fault
  | none => .ok value.inspect

end Datum

end ForwardedClient.Data
