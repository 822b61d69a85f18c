import ForwardedClient.Data.Binary64

/-!
Contract: values of no fixed type.

Owns: `Datum`, what configuration sources, request state and journal fields may hold, its
notion of truth, and field lists as ordered maps. Sets, maps with keys of any type, objects
of any other type and references back to a value are foreign: they are there only where
they are asked for, in the journal and in the sources of settings.

Does not own: how values are written.
-/

namespace ForwardedClient.Data

/-- Why a value cannot be shown as text. -/
inductive ShowFault where
  | tooLong
  | nestedTooDeep
  | raised (kind text : String)
deriving DecidableEq

def numeralFault : String :=
  "Exceeds the limit (4300 digits) for integer string conversion; " ++
    "use sys.set_int_max_str_digits() to increase the limit"

def ShowFault.message : ShowFault → String
  | .tooLong => numeralFault
  | .nestedTooDeep => "maximum recursion depth exceeded while getting the repr of an object"
  | .raised _ text => text

/-- An object of a type that is not known here: what it is shown as by itself and inside of
other values, which its type decides and which may fail. -/
structure ForeignObject where
  typeName : String
  countsAsTrue : Bool := true
  displayed : Except ShowFault String
  inspected : Except ShowFault String

/-- The types of values that may hold themselves. -/
inductive Container where
  | list
  | tuple
  | object
deriving DecidableEq

/-- A value. An object of a type derived from one of the others is `other` with the value
that is written in its place; a value that holds itself has `enclosing` where it would begin
again. -/
inductive Datum (foreign : Prop := False) where
  | null
  | bool (value : Bool)
  | int (value : Int)
  | float (value : Binary64)
  | text (value : String)
  | bytes (value : String)
  | list (items : List (Datum foreign))
  | tuple (items : List (Datum foreign))
  | object (fields : List (String × Datum foreign))
  | set (allowed : foreign) (frozen : Bool) (items : List (Datum foreign))
  | mapping (allowed : foreign) (entries : List (Datum foreign × Datum foreign))
  | other (allowed : foreign) (object : ForeignObject) (written : Option (Datum foreign))
  | enclosing (allowed : foreign) (container : Container)
deriving Inhabited

variable {foreign : Prop}

namespace Datum

/-- Whether a value counts as true: it is neither missing nor zero nor empty. -/
def isTruthy : Datum foreign → Bool
  | .null => false
  | .bool value => value
  | .int value => value != 0
  | .float (.finite _ mantissa _) => mantissa != 0
  | .float _ => true
  | .text value | .bytes value => !value.isEmpty
  | .list items | .tuple items | .set _ _ items => !items.isEmpty
  | .object fields => !fields.isEmpty
  | .mapping _ entries => !entries.isEmpty
  | .other _ thing _ => thing.countsAsTrue
  | .enclosing _ _ => true

def typeName : Datum foreign → String
  | .null => "NoneType"
  | .bool _ => "bool"
  | .int _ => "int"
  | .float _ => "float"
  | .text _ => "str"
  | .bytes _ => "bytes"
  | .list _ | .enclosing _ .list => "list"
  | .tuple _ | .enclosing _ .tuple => "tuple"
  | .object _ | .mapping _ _ | .enclosing _ .object => "dict"
  | .set _ frozen _ => if frozen then "frozenset" else "set"
  | .other _ thing _ => thing.typeName

/-- The number that an object of a type derived from those of numbers stands for. -/
def numeral : Datum foreign → Datum foreign
  | .other _ _ (some (.int value)) => .int value
  | .other _ _ (some (.float value)) => .float value
  | value => value

/-- The text that a value is, also as an object of a type derived from that of texts. -/
def text? : Datum foreign → Option String
  | .text value => some value
  | .other _ _ (some value) => text? value
  | _ => none

/-- Whether a number has more digits than are ever written. -/
def isLong (value : Int) : Bool := decide (4300 < (Nat.toDigits 10 value.natAbs).length)

end Datum

/-- Named values in the order in which the names first appeared. -/
abbrev Fields (foreign : Prop := False) := List (String × Datum foreign)

namespace Fields

def find? (fields : Fields foreign) (name : String) : Option (Datum foreign) :=
  (List.find? (fun field => field.1 == name) fields).map (·.2)

/-- Sets a value: in its place if the name is known, else at the end. -/
def set : Fields foreign → String → Datum foreign → Fields foreign
  | [], name, value => [(name, value)]
  | field :: rest, name, value =>
    if field.1 == name then (name, value) :: rest else field :: set rest name value

def erase (fields : Fields foreign) (name : String) : Fields foreign :=
  List.filter (fun field => field.1 != name) fields

def update (fields updates : Fields foreign) : Fields foreign :=
  List.foldl (fun fields field => set fields field.1 field.2) fields updates

theorem find?_set (fields : Fields foreign) (name other : String) (value : Datum foreign) :
    find? (set fields name value) other =
      if name = other then some value else find? fields other := by
  induction fields with
  | nil =>
    by_cases same : name = other <;> simp [set, find?, same]
  | cons field rest inductionHypothesis =>
    by_cases here : field.1 = name
    · by_cases same : name = other
      · simp [set, find?, here, same]
      · have fieldOther : ¬ field.1 = other := fun equal => same (here ▸ equal)
        simp [set, find?, here, same]
    · by_cases same : field.1 = other
      · have nameOther : ¬ name = other := fun equal => here (same.trans equal.symm)
        have fieldName : ¬ other = name := fun equal => nameOther equal.symm
        simp [set, find?, same, nameOther, fieldName]
      · simp only [find?, set] at inductionHypothesis ⊢
        simp [here, same, inductionHypothesis]

end Fields

end ForwardedClient.Data
