import ForwardedClient.Data.Display
import ForwardedClient.Settings.Fault

/-!
Contract: the account of all faults of some settings.

Owns: `faultText`, which names every field with its complaint, the value it was given and
where to read more, and the shortening of long values.

Does not own: the complaints themselves.
-/

namespace ForwardedClient.Settings

open ForwardedClient.Data

def withinBytes (limit : Nat) : List Char → List Char
  | [] => []
  | char :: rest =>
    if char.utf8Size ≤ limit then char :: withinBytes (limit - char.utf8Size) rest else []

/-- Values of more bytes than this are shortened. -/
def maxShownBytes : Nat := 50

/-- A value with its middle left out if it is long. -/
def shortened (text : String) : String :=
  if text.utf8ByteSize ≤ maxShownBytes then text
  else
    let start := withinBytes (maxShownBytes / 2) text.toList
    let tail := (withinBytes (maxShownBytes / 2 - 1) text.toList.reverse).reverse
    String.ofList start ++ "..." ++ String.ofList tail

/-- The site that explains complaints, and its edition. -/
def explainedAt : String × String := ("errors.pydantic.dev", "2.14")

def explanation (complaint : Complaint) : String :=
  "https://" ++ explainedAt.1 ++ "/" ++ explainedAt.2 ++ "/v/" ++ complaint.tag

/-- The lines for one fault; `given` holds the values the settings were read from. -/
def faultLines (given : Fields) (fault : Fault) : List String :=
  let value := (given.find? fault.field).getD .null
  [fault.field,
    "  " ++ fault.complaint.message ++ " [type=" ++ fault.complaint.tag ++ ", input_value=" ++
      shortened value.inspect ++ ", input_type=" ++ value.typeName ++ "]",
    "    For further information visit " ++ explanation fault.complaint]

/-- All faults with a count in front. -/
def faultText (given : Fields) (faults : List Fault) : String :=
  let count := toString faults.length ++ " validation error" ++
    (if faults.length == 1 then "" else "s") ++ " for Settings"
  String.intercalate "\n" (count :: faults.flatMap (faultLines given))

end ForwardedClient.Settings
