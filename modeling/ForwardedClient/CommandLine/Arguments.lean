import ForwardedClient.CommandLine.Similarity
import ForwardedClient.CommandLine.Usage
import ForwardedClient.Text.Pieces

/-!
Contract: options among the arguments of a command.

Owns: `Spelling`, one way to write an option, and `Parsed`, the options in the order in which
they were given and the arguments that are none. A long option has its value after an equals
sign or in the next argument, a short one in the same or in the next argument.

Does not own: what the options mean.
-/

namespace ForwardedClient.CommandLine

open ForwardedClient.Text

/-- What an option is set to: a text, or one of two choices. -/
inductive Given where
  | text (value : String)
  | choice (value : Bool)
deriving DecidableEq

/-- One way to write an option; a name that stands for a choice takes no value. -/
structure Spelling (α : Type) where
  written : String
  option : α
  choice : Option Bool := none

namespace Spelling

def isLong {α : Type} (spelling : Spelling α) : Bool := spelling.written.startsWith "--"

def find? {α : Type} (spellings : List (Spelling α)) (name : String) : Option (Spelling α) :=
  spellings.find? fun spelling => spelling.written == name

end Spelling

/-- The options in the order in which they were given, and the other arguments. -/
structure Parsed (α : Type) where
  options : List (α × Given) := []
  others : List String := []

namespace Parsed

def text? {α : Type} [BEq α] (parsed : Parsed α) (option : α) : Option String :=
  parsed.options.reverse.findSome? fun entry =>
    match entry with
    | (found, .text value) => if found == option then some value else none
    | _ => none

def texts {α : Type} [BEq α] (parsed : Parsed α) (option : α) : List String :=
  parsed.options.filterMap fun entry =>
    match entry with
    | (found, .text value) => if found == option then some value else none
    | _ => none

def choice? {α : Type} [BEq α] (parsed : Parsed α) (option : α) : Option Bool :=
  parsed.options.reverse.findSome? fun entry =>
    match entry with
    | (found, .choice value) => if found == option then some value else none
    | _ => none

end Parsed

/-- What one argument holds, and whether the next argument was taken as its value. -/
structure Taken (α : Type) where
  options : List (α × Given)
  usesNext : Bool := false

/-- Takes the value of an option from what follows its name or from the next argument. -/
def takeValue {α : Type} (spelling : Spelling α) (attached next : Option String) :
    Except UsageFault (Taken α) :=
  match attached, next with
  | some value, _ => .ok ⟨[(spelling.option, .text value)], false⟩
  | none, some value => .ok ⟨[(spelling.option, .text value)], true⟩
  | none, none => .error (.missingValue spelling.written)

/-- Reads an argument as a long option; `none` if no such option is known. -/
def takeLong? {α : Type} (spellings : List (Spelling α)) (name : String)
    (attached next : Option String) : Option (Except UsageFault (Taken α)) :=
  (Spelling.find? (spellings.filter Spelling.isLong) name).map fun spelling =>
    match spelling.choice, attached with
    | none, _ => takeValue spelling attached next
    | some _, some _ => .error (.unexpectedValue spelling.written)
    | some choice, none => .ok ⟨[(spelling.option, .choice choice)], false⟩

/-- Reads the letters after a single hyphen: choices up to the first option that takes a
value, which has the other letters or the next argument as its value. -/
def takeShort {α : Type} (spellings : List (Spelling α)) (next : Option String) :
    List Char → Except UsageFault (Taken α)
  | [] => .ok ⟨[], false⟩
  | letter :: rest =>
    let name := String.ofList ['-', letter]
    match Spelling.find? spellings name with
    | none => .error (.unknownOption name [])
    | some spelling =>
      match spelling.choice with
      | none =>
        takeValue spelling (if rest.isEmpty then none else some (String.ofList rest)) next
      | some choice => do
        let taken ← takeShort spellings next rest
        return { taken with options := (spelling.option, .choice choice) :: taken.options }

def takeOption {α : Type} (spellings : List (Spelling α)) (argument : String)
    (next : Option String) : Except UsageFault (Taken α) :=
  let (name, attached) := partitionAt (· == '=') argument.toList
  let name := String.ofList name
  match takeLong? spellings name (attached.map String.ofList) next with
  | some outcome => outcome
  | none =>
    if argument.startsWith "--" then
      let known := (spellings.filter Spelling.isLong).map (·.written)
      .error (.unknownOption name (similar name known))
    else takeShort spellings next argument.toList.tail

/-- Whether an argument is to be read as an option; a single hyphen is none. -/
def isOption (argument : String) : Bool := argument.startsWith "-" && argument != "-"

/-- Reads the arguments of a command. After two hyphens nothing is an option; options may
stand behind other arguments if `mixed` holds. -/
def parseArguments {α : Type} (spellings : List (Spelling α)) (mixed : Bool) :
    List String → Except UsageFault (Parsed α)
  | [] => .ok {}
  | argument :: rest =>
    if argument == "--" then .ok ⟨[], rest⟩
    else if isOption argument then
      match takeOption spellings argument rest.head?, rest with
      | .error fault, _ => .error fault
      | .ok ⟨options, true⟩, _ :: others =>
        (parseArguments spellings mixed others).map fun parsed =>
          { parsed with options := options ++ parsed.options }
      | .ok ⟨options, _⟩, rest =>
        (parseArguments spellings mixed rest).map fun parsed =>
          { parsed with options := options ++ parsed.options }
    else if mixed then
      (parseArguments spellings mixed rest).map fun parsed =>
        { parsed with others := argument :: parsed.others }
    else .ok ⟨[], argument :: rest⟩
termination_by arguments => arguments.length

end ForwardedClient.CommandLine
