import ForwardedClient.Pattern.Error

/-!
Contract: why a setting cannot be accepted.

Owns: `Complaint`, the cause for one value, with its short tag and its wording, `Fault`, a
complaint about a named field, and `Failure`, the outcome for a whole set of fields.

Does not own: how values are read.
-/

namespace ForwardedClient.Settings

open ForwardedClient.Pattern
open ForwardedClient.Text

inductive Complaint where
  | notText
  | notUnicode
  | unknownEnvironment
  | unknownFormat
  | notWhole
  | unreadableWhole
  | fractional
  | tooLong
  | notFinite
  | notSwitch
  | unreadableSwitch
  | portOutOfRange (value : Int)
  | badPattern (text : String) (cause : PatternError)
  | unknownField
deriving DecidableEq

namespace Complaint

def tag : Complaint → String
  | .notText => "string_type"
  | .notUnicode => "string_unicode"
  | .unknownEnvironment => "enum"
  | .unknownFormat => "literal_error"
  | .notWhole => "int_type"
  | .unreadableWhole => "int_parsing"
  | .fractional => "int_from_float"
  | .tooLong => "int_parsing_size"
  | .notFinite => "finite_number"
  | .notSwitch => "bool_type"
  | .unreadableSwitch => "bool_parsing"
  | .portOutOfRange _ | .badPattern .. => "value_error"
  | .unknownField => "extra_forbidden"

def message : Complaint → String
  | .notText => "Input should be a valid string"
  | .notUnicode =>
    "Input should be a valid string, unable to parse raw data as a unicode string"
  | .unknownEnvironment => "Input should be 'dev', 'staging' or 'production'"
  | .unknownFormat => "Input should be 'human' or 'json'"
  | .notWhole => "Input should be a valid integer"
  | .unreadableWhole =>
    "Input should be a valid integer, unable to parse string as an integer"
  | .fractional =>
    "Input should be a valid integer, got a number with a fractional part"
  | .tooLong => "Unable to parse input string as an integer, exceeded maximum size"
  | .notFinite => "Input should be a finite number"
  | .notSwitch => "Input should be a valid boolean"
  | .unreadableSwitch => "Input should be a valid boolean, unable to interpret input"
  | .portOutOfRange value => "Value error, Port out of range: " ++ toString value
  | .badPattern _ .conflictingFlags =>
    "Value error, " ++ PatternError.message "" .conflictingFlags
  | .badPattern text cause =>
    "Value error, Invalid proxy pattern " ++ quoted text ++ ": " ++ cause.message text
  | .unknownField => "Extra inputs are not permitted"

/-- A pattern whose numbers are beyond all bounds, or whose parentheses are nested too deep, ends
the reading of the settings at once: it is not gathered with the other complaints. -/
def breaksOff? : Complaint → Option (String × PatternError)
  | .badPattern text cause => if cause.endsReading then some (text, cause) else none
  | _ => none

end Complaint

structure Fault where
  field : String
  complaint : Complaint
deriving DecidableEq

/-- Why settings cannot be built: a pattern broke the reading off, or all faults in order. -/
inductive Failure where
  | brokeOff (text : String) (cause : PatternError)
  | faults (faults : List Fault)
deriving DecidableEq

def Failure.ofFaults (faults : List Fault) : Failure :=
  match faults.findSome? fun fault => fault.complaint.breaksOff? with
  | some (text, cause) => .brokeOff text cause
  | none => .faults faults

end ForwardedClient.Settings
