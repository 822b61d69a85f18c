import ForwardedClient.Data.Basic
import ForwardedClient.Data.DecimalText
import ForwardedClient.Text.Hex

/-!
Contract: values as JSON text.

Owns: the writer, which uses ASCII only and keeps the order of fields, and its faults: values
and keys of types that JSON cannot hold, numbers with too many digits, values that hold
themselves, and values inside each other for which there is no room.

Does not own: reading JSON, and how much room there is.
-/

namespace ForwardedClient.Data

open ForwardedClient.Text

variable {foreign : Prop}

def unitEscape (unit : Nat) : String := "\\u" ++ hexNumeral 4 unit

def jsonChar (char : Char) : String :=
  if char == '"' then "\\\""
  else if char == '\\' then "\\\\"
  else if char == '\n' then "\\n"
  else if char == '\r' then "\\r"
  else if char == '\t' then "\\t"
  else if char == '\x0c' then "\\f"
  else if char == '\x08' then "\\b"
  else if 0x20 ≤ char.toNat && char.toNat ≤ 0x7E then String.singleton char
  else if char.toNat ≤ 0xFFFF then unitEscape char.toNat
  else
    let offset := char.toNat - 0x10000
    unitEscape (0xD800 + offset / 0x400) ++ unitEscape (0xDC00 + offset % 0x400)

def jsonText (text : String) : String :=
  "\"" ++ text.toList.foldl (fun written char => written ++ jsonChar char) "" ++ "\""

/-- Why JSON cannot hold a value. -/
inductive JsonFault where
  | notWritable (typeName : String)
  | notKey (typeName : String)
  | tooLong
  | holdsItself
  | nestedTooDeep
deriving DecidableEq

def JsonFault.message : JsonFault → String
  | .notWritable typeName => "Object of type " ++ typeName ++ " is not JSON serializable"
  | .notKey typeName => "keys must be str, int, float, bool or None, not " ++ typeName
  | .tooLong => numeralFault
  | .holdsItself => "Circular reference detected"
  | .nestedTooDeep => "maximum recursion depth exceeded while encoding a JSON object"

namespace Datum

/-- Opens one more value, as long as there is room. -/
def openWritten {α : Type} (room : Nat) (inner : Nat → Except JsonFault α) :
    Except JsonFault α :=
  match room with
  | 0 => .error .nestedTooDeep
  | room + 1 => inner room

def writeWhole (value : Int) : Except JsonFault String :=
  if isLong value then .error .tooLong else .ok (toString value)

/-- The text of a key. Keys may be texts, numbers, truth values or nothing. -/
def writeKey : Datum foreign → Except JsonFault String
  | .null => .ok "null"
  | .bool value => .ok (if value then "true" else "false")
  | .int value => writeWhole value
  | .float value => .ok (value.spell "NaN" "Infinity")
  | .text value => .ok value
  | .other _ thing (some value) =>
    match writeKey value with
    | .error (.notKey _) => .error (.notKey thing.typeName)
    | written => written
  | value => .error (.notKey value.typeName)

mutual

/-- A value as JSON, or the first fault in the order of its parts. -/
def writeJson (room : Nat) : Datum foreign → Except JsonFault String
  | .null => .ok "null"
  | .bool value => .ok (if value then "true" else "false")
  | .int value => writeWhole value
  | .float value => .ok (value.spell "NaN" "Infinity")
  | .text value => .ok (jsonText value)
  | .list items | .tuple items =>
    openWritten room fun room =>
      (writeAll room items).map fun written => "[" ++ String.intercalate ", " written ++ "]"
  | .object fields =>
    openWritten room fun room =>
      (writeFields room fields).map fun written =>
        "\x7b" ++ String.intercalate ", " written ++ "\x7d"
  | .mapping _ entries =>
    openWritten room fun room =>
      (writeEntries room entries).map fun written =>
        "\x7b" ++ String.intercalate ", " written ++ "\x7d"
  | .other _ _ (some value) => writeJson room value
  | .enclosing _ _ => openWritten room fun _ => .error .holdsItself
  | value => openWritten room fun _ => .error (.notWritable value.typeName)

def writeAll (room : Nat) : List (Datum foreign) → Except JsonFault (List String)
  | [] => .ok []
  | item :: rest => do
    let first ← writeJson room item
    return first :: (← writeAll room rest)

def writeFields (room : Nat) : List (String × Datum foreign) → Except JsonFault (List String)
  | [] => .ok []
  | (name, value) :: rest => do
    let first ← writeJson room value
    return (jsonText name ++ ": " ++ first) :: (← writeFields room rest)

def writeEntries (room : Nat) :
    List (Datum foreign × Datum foreign) → Except JsonFault (List String)
  | [] => .ok []
  | (key, value) :: rest => do
    let name ← writeKey key
    let first ← writeJson room value
    return (jsonText name ++ ": " ++ first) :: (← writeEntries room rest)

end

end Datum

end ForwardedClient.Data
