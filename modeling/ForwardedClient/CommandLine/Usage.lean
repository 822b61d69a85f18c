import ForwardedClient.Text.Quoted

/-!
Contract: what can be wrong with the arguments of a command.

Owns: `UsageFault`, one cause per mistake, and its wording.

Does not own: faults that show only while a command works.
-/

namespace ForwardedClient.CommandLine

open ForwardedClient.Text

/-- Why arguments are refused. -/
inductive UsageFault where
  | missingCommand
  | unknownCommand (name : String) (suggestions : List String)
  | unknownOption (name : String) (suggestions : List String)
  | missingOption (names : List String)
  | missingValue (option : String)
  | unexpectedValue (option : String)
  | extraArguments (arguments : List String)
  | unreadableOption (option reason : String)
  | unreadableHeader (header : String)
deriving DecidableEq

namespace UsageFault

def headerReason (header : String) : String := "Expected 'Name: value', got " ++ quoted header

def message : UsageFault → String
  | .missingCommand => "Missing command."
  | .unknownCommand name [] => "No such command " ++ quoted name ++ "."
  | .unknownCommand name suggestions =>
    "No such command " ++ quoted name ++ ". Did you mean " ++
      String.intercalate ", " (suggestions.map quoted) ++ "?"
  | .unknownOption name [] => "No such option: " ++ name
  | .unknownOption name suggestions =>
    "No such option: " ++ name ++ " (Possible options: " ++
      String.intercalate ", " (suggestions.mergeSort (· ≤ ·)) ++ ")"
  | .missingOption names =>
    "Missing option " ++ String.intercalate " / " (names.map quoted) ++ "."
  | .missingValue option => "Option " ++ quoted option ++ " requires an argument."
  | .unexpectedValue option => "Option " ++ quoted option ++ " does not take a value."
  | .extraArguments arguments =>
    "Got unexpected extra argument(s) (" ++ String.intercalate " " arguments ++ ")"
  | .unreadableOption option reason => "Invalid value for " ++ quoted option ++ ": " ++ reason
  | .unreadableHeader header => "Invalid value: " ++ headerReason header

end UsageFault

end ForwardedClient.CommandLine
