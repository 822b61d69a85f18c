import ForwardedClient.Settings.Basic
import ForwardedClient.Settings.WholeNumber

/-!
Contract: what fields make of values.

Owns: `Reader`, how values of any type are taken as values of the fields' types, with optional
texts, ports and patterns read on top of that; `Reader.lax`, which takes texts, bytes that
spell texts, numbers and truth values for each other where nothing is lost.

Does not own: where values come from.
-/

namespace ForwardedClient.Settings

open ForwardedClient.Data
open ForwardedClient.Pattern
open ForwardedClient.Text

/-- How values are taken as values of the fields' types, and how deep parentheses of patterns
may be nested. A value that has the type of its field already is kept, a member of an
enumeration also where it is told by its name, and there is always room for the default
patterns. -/
structure Reader (foreign : Prop := False) where
  text : Datum foreign → Except Complaint String
  whole : Datum foreign → Except Complaint Int
  switch : Datum foreign → Except Complaint Bool
  environment : Datum foreign → Except Complaint Environment
  format : Datum foreign → Except Complaint LineFormat
  room : Nat := stackRoom
  text_text : ∀ value, text (.text value) = .ok value
  whole_int : ∀ value, whole (.int value) = .ok value
  switch_bool : ∀ value, switch (.bool value) = .ok value
  environment_name : ∀ value, environment (.text value.name) = .ok value
  format_name : ∀ value, format (.text value.name) = .ok value
  leastRoom_le_room : ProxyPattern.leastRoom ≤ room := by decide

variable {foreign : Prop}

namespace Reader

section Fields

variable (reader : Reader foreign)

/-- The same reader with more room for patterns. -/
def within (room : Nat) (more : reader.room ≤ room) : Reader foreign :=
  { reader with room, leastRoom_le_room := Nat.le_trans reader.leastRoom_le_room more }

def maybeText : Datum foreign → Except Complaint (Option String)
  | .null => .ok none
  | value => (reader.text value).map some

def pattern (value : Datum foreign) : Except Complaint ProxyPattern :=
  match reader.text value with
  | .error complaint => .error complaint
  | .ok text =>
    match ProxyPattern.read text reader.room with
    | .ok pattern => .ok pattern
    | .error cause => .error (.badPattern text cause)

def port (value : Datum foreign) : Except Complaint PortNumber :=
  match reader.whole value with
  | .error complaint => .error complaint
  | .ok port =>
    if inRange : 0 ≤ port ∧ port ≤ Address.maxPort then .ok ⟨port.toNat, by omega⟩
    else .error (.portOutOfRange port)

end Fields

/-! ### The lax reader -/

/-- The text that bytes spell, if they spell one. -/
def spelledText? (bytes : String) : Option String :=
  String.fromUTF8? ⟨(bytes.toList.map fun char => UInt8.ofNat char.toNat).toArray⟩

/-- Texts and bytes that spell texts; objects of a type derived from that of texts are texts. -/
def laxText : Datum foreign → Except Complaint String
  | .text text => .ok text
  | .bytes bytes =>
    match spelledText? bytes with
    | some text => .ok text
    | none => .error .notUnicode
  | .other _ _ (some value) => laxText value
  | _ => .error .notText

def laxWhole : Datum foreign → Except Complaint Int
  | .bool value => .ok (if value then 1 else 0)
  | .int value => .ok value
  | .float value => wholeOfBinary value
  | .text text => readWhole text
  | .bytes bytes =>
    match spelledText? bytes with
    | some text => readWhole text
    | none => .error .unreadableWhole
  | .other _ _ (some value) => laxWhole value
  | _ => .error .notWhole

def switchWords : List (String × Bool) :=
  [("1", true), ("true", true), ("t", true), ("yes", true), ("y", true), ("on", true),
    ("0", false), ("false", false), ("f", false), ("no", false), ("n", false),
    ("off", false)]

def readSwitch (text : String) : Except Complaint Bool :=
  let word := String.ofList (text.toList.map Char.toLower)
  match switchWords.find? fun entry => entry.1 == word with
  | some entry => .ok entry.2
  | none => .error .unreadableSwitch

/-- A number as a switch; only zero and one are. -/
def switchOfWhole (value : Int) : Except Complaint Bool :=
  if value == 0 then .ok false
  else if value == 1 then .ok true
  else if isWord value then .error .unreadableSwitch
  else .error .notSwitch

def laxSwitch : Datum foreign → Except Complaint Bool
  | .bool value => .ok value
  | .text text => readSwitch text
  | .bytes bytes =>
    match spelledText? bytes with
    | some text => readSwitch text
    | none => .error .unreadableSwitch
  | .int value => switchOfWhole value
  | .float value =>
    match value.toInt? with
    | some whole => switchOfWhole whole
    | none => .error .notSwitch
  | .other _ _ (some value) => laxSwitch value
  | _ => .error .notSwitch

def laxEnvironment (value : Datum foreign) : Except Complaint Environment :=
  match laxText value with
  | .error _ => .error .unknownEnvironment
  | .ok text =>
    match Environment.ofName? text with
    | some environment => .ok environment
    | none => .error .unknownEnvironment

/-- Formats are told by texts only. -/
def laxFormat (value : Datum foreign) : Except Complaint LineFormat :=
  match value.text? with
  | none => .error .unknownFormat
  | some text =>
    match LineFormat.ofName? text with
    | some format => .ok format
    | none => .error .unknownFormat

def lax : Reader foreign where
  text := laxText
  whole := laxWhole
  switch := laxSwitch
  environment := laxEnvironment
  format := laxFormat
  text_text _ := rfl
  whole_int _ := rfl
  switch_bool _ := rfl
  environment_name value := by simp only [laxEnvironment, laxText, Environment.ofName?_name]
  format_name value := by simp only [laxFormat, Datum.text?, LineFormat.ofName?_name]

end Reader

end ForwardedClient.Settings
