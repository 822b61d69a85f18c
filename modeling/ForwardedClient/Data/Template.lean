import ForwardedClient.Data.Display

/-!
Contract: filling values into a text template.

Owns: directives that begin with a per cent sign, with a named value, flags, width,
precision and a conversion, the values they take in order, and every way in which a template
and its values may not fit together.

Does not own: which values are at hand.
-/

namespace ForwardedClient.Data.Template

open ForwardedClient.Data
open ForwardedClient.Text

variable {foreign : Prop}

/-! ### Faults -/

inductive CountRole where
  | width
  | precision
deriving DecidableEq

inductive Fault where
  | tooFewValues
  | valuesLeft
  | incomplete
  | incompleteName
  | noNames
  | unknownName (name : String)
  | namesOfList
  | namesOfBytes
  | starNotWhole
  | countTooBig (role : CountRole)
  | starTooBig (role : CountRole)
  | precisionTooBig
  | unknownConversion (char : Char) (index : Nat)
  | notNumber (conversion : Char) (typeName : String)
  | notWhole (conversion : Char) (typeName : String)
  | notReal (typeName : String)
  | notCharacter
  | characterOutOfRange
  | wholeOfNothing
  | wholeOfInfinity
  | tooLargeForReal
  | value (fault : ShowFault)
deriving DecidableEq

namespace Fault

/-- A conversion that is shown in a message must be printable ASCII. -/
def shownConversion (char : Char) : Char :=
  if 31 ≤ char.toNat && char.toNat ≤ 126 then char else '?'

def hexCode (code : Nat) : String := String.ofList (Nat.toDigits 16 code)

def message : Fault → String
  | .tooFewValues => "not enough arguments for format string"
  | .valuesLeft => "not all arguments converted during string formatting"
  | .incomplete => "incomplete format"
  | .incompleteName => "incomplete format key"
  | .noNames => "format requires a mapping"
  | .unknownName name => quoted name
  | .namesOfList => "list indices must be integers or slices, not str"
  | .namesOfBytes => "byte indices must be integers or slices, not str"
  | .starNotWhole => "* wants int"
  | .countTooBig .width => "width too big"
  | .countTooBig .precision => "precision too big"
  | .starTooBig .width => "Python int too large to convert to C ssize_t"
  | .starTooBig .precision => "Python int too large to convert to C int"
  | .precisionTooBig => "precision too large"
  | .unknownConversion char index =>
    "unsupported format character '" ++ String.singleton (shownConversion char) ++ "' (0x" ++
      hexCode char.toNat ++ ") at index " ++ toString index
  | .notNumber conversion typeName =>
    "%" ++ String.singleton conversion ++ " format: a real number is required, not " ++ typeName
  | .notWhole conversion typeName =>
    "%" ++ String.singleton conversion ++ " format: an integer is required, not " ++ typeName
  | .notReal typeName => "must be real number, not " ++ typeName
  | .notCharacter => "%c requires int or char"
  | .characterOutOfRange => "%c arg not in range(0x110000)"
  | .wholeOfNothing => "cannot convert float NaN to integer"
  | .wholeOfInfinity => "cannot convert float infinity to integer"
  | .tooLargeForReal => "int too large to convert to float"
  | .value fault => fault.message

end Fault

/-! ### Values in order -/

/-- The values that are still to be taken. -/
inductive Supply (foreign : Prop) where
  | several (left : List (Datum foreign))
  | single (value : Datum foreign) (taken : Bool)

/-- All values: a named value is looked up in the whole, others come in order. -/
structure Values (foreign : Prop) where
  whole : Datum foreign
  supply : Supply foreign

namespace Values

/-- What an object of a type derived from those of lists, tuples and objects holds. -/
def contents : Datum foreign → Datum foreign
  | .other _ _ (some value) => value
  | value => value

/-- A tuple is a sequence of values, anything else is one value. -/
def ofDatum (value : Datum foreign) : Values foreign :=
  match contents value with
  | .tuple items => ⟨contents value, .several items⟩
  | whole => ⟨whole, .single value false⟩

def next (values : Values foreign) : Except Fault (Datum foreign × Values foreign) :=
  match values.supply with
  | .several (value :: left) => .ok (value, { values with supply := .several left })
  | .single value false => .ok (value, { values with supply := .single value true })
  | _ => .error .tooFewValues

/-- The value under a name, in a map that may have other keys too. -/
def findNamed? (entries : List (Datum foreign × Datum foreign)) (name : String) :
    Option (Datum foreign) :=
  (entries.find? fun entry => entry.1.text? == some name).map (·.2)

def select (values : Values foreign) (name : String) : Except Fault (Values foreign) :=
  let found (value : Option (Datum foreign)) : Except Fault (Values foreign) :=
    match value with
    | some value => .ok { values with supply := .single value false }
    | none => .error (.unknownName name)
  match values.whole with
  | .object fields => found (Fields.find? fields name)
  | .mapping _ entries => found (findNamed? entries name)
  | .list _ => .error .namesOfList
  | .bytes _ => .error .namesOfBytes
  | _ => .error .noNames

/-- Values without names must all be taken. -/
def finish (values : Values foreign) : Except Fault Unit :=
  match values.whole, values.supply with
  | .object _, _ | .mapping _ _, _ | .list _, _ | .bytes _, _ => .ok ()
  | _, .several (_ :: _) | _, .single _ false => .error .valuesLeft
  | _, _ => .ok ()

end Values

/-! ### Directives -/

structure Directive where
  atLeft : Bool := false
  plus : Bool := false
  blank : Bool := false
  alternate : Bool := false
  zeros : Bool := false
  width : Nat := 0
  precision : Option Nat := none

/-- Takes a flag into a directive; `none` if the character is no flag. -/
def Directive.addFlag (directive : Directive) (char : Char) : Option Directive :=
  match char with
  | '-' => some { directive with atLeft := true }
  | '+' => some { directive with plus := true }
  | ' ' => some { directive with blank := true }
  | '#' => some { directive with alternate := true }
  | '0' => some { directive with zeros := true }
  | _ => none

def readFlags (directive : Directive) : List Char → Directive × List Char
  | [] => (directive, [])
  | char :: rest =>
    match directive.addFlag char with
    | some changed => readFlags changed rest
    | none => (directive, char :: rest)

def readName (depth : Nat) : List Char → Except Fault (List Char × List Char)
  | [] => .error .incompleteName
  | ')' :: rest =>
    match depth with
    | 0 => .ok ([], rest)
    | depth + 1 => (readName depth rest).map fun (name, after) => (')' :: name, after)
  | '(' :: rest => (readName (depth + 1) rest).map fun (name, after) => ('(' :: name, after)
  | char :: rest => (readName depth rest).map fun (name, after) => (char :: name, after)

/-- A count that is a value. -/
def wholeCount (value : Datum foreign) : Except Fault Int :=
  match value.numeral with
  | .int value => .ok value
  | .bool value => .ok (if value then 1 else 0)
  | _ => .error .starNotWhole

/-- Counts must be below this bound and, if they are negative, not below its opposite. -/
def CountRole.bound : CountRole → Nat
  | .width => 9223372036854775808
  | .precision => 2147483648

/-- Reads a count: a star takes the next value, digits are the count. -/
def readCount (role : CountRole) (values : Values foreign) :
    List Char → Except Fault (Option Int × List Char × Values foreign)
  | '*' :: rest => do
    let (value, values) ← values.next
    let count ← wholeCount value
    if count < -(role.bound : Int) || (role.bound : Int) ≤ count then
      throw (.starTooBig role)
    return (some count, rest, values)
  | text => do
    let digits := text.takeWhile isAsciiDigit
    if role.bound ≤ decimalValue digits then
      throw (.countTooBig role)
    let count : Option Int := if digits.isEmpty then none else some (decimalValue digits)
    return (count, text.dropWhile isAsciiDigit, values)

/-- Reads a directive after its per cent sign, up to the conversion. -/
def readDirective (values : Values foreign) (text : List Char) :
    Except Fault (Directive × List Char × Values foreign) := do
  let (text, values) ←
    match text with
    | '(' :: rest =>
      match values.whole with
      | .object _ | .mapping _ _ | .list _ | .bytes _ => do
        let (name, after) ← readName 0 rest
        pure (after, ← values.select (String.ofList name))
      | _ => throw .noNames
    | text => pure (text, values)
  let (directive, text) := readFlags {} text
  let (width, text, values) ← readCount .width values text
  let width := width.getD 0
  let directive :=
    { directive with width := width.natAbs, atLeft := directive.atLeft || width < 0 }
  match text with
  | '.' :: rest =>
    let (precision, text, values) ← readCount .precision values rest
    return ({ directive with precision := some (precision.getD 0).toNat }, text, values)
  | text => return (directive, text, values)

/-! ### Conversions -/

/-- Puts sign, mark and body into the width of a directive. -/
def place (directive : Directive) (numeric : Bool) (sign mark body : List Char) : List Char :=
  let gap := directive.width - (sign.length + mark.length + body.length)
  if directive.atLeft then sign ++ mark ++ body ++ List.replicate gap ' '
  else if numeric && directive.zeros then sign ++ mark ++ List.replicate gap '0' ++ body
  else List.replicate gap ' ' ++ sign ++ mark ++ body

def signText (directive : Directive) (negative : Bool) : List Char :=
  if negative then ['-'] else if directive.plus then ['+']
  else if directive.blank then [' '] else []

/-- Text, cut to the precision. -/
def placeText (directive : Directive) (text : String) : List Char :=
  let body :=
    match directive.precision with
    | some most => text.toList.take most
    | none => text.toList
  place directive false [] [] body

def escapeText (text : String) : String :=
  String.join (text.toList.map fun char =>
    if char.toNat < 0x80 then String.singleton char else codeEscape char.toNat)

def wholeOf (conversion : Char) (value : Datum foreign) : Except Fault Int :=
  match value.numeral with
  | .int value => .ok value
  | .bool value => .ok (if value then 1 else 0)
  | .float .notANumber => .error .wholeOfNothing
  | .float (.infinite _) => .error .wholeOfInfinity
  | .float (.finite negative mantissa exponent) =>
    let magnitude : Int := Binary64.wholePart mantissa exponent
    .ok (if negative then -magnitude else magnitude)
  | _ => .error (.notNumber conversion value.typeName)

/-- The whole number of a value that is one. -/
def exactWholeOf (conversion : Char) (value : Datum foreign) : Except Fault Int :=
  match value.numeral with
  | .int value => .ok value
  | .bool value => .ok (if value then 1 else 0)
  | _ => .error (.notWhole conversion value.typeName)

/-- A whole number that is written in decimal digits must not have too many. -/
def checkDecimal (value : Int) : Except Fault Int :=
  if Datum.isLong value then .error (.value .tooLong) else .ok value

/-- A whole number in some base; the mark is written under the alternate flag. -/
def placeWhole (directive : Directive) (base : Nat) (mark : List Char) (capital : Bool)
    (value : Int) : List Char :=
  let digits := Nat.toDigits base value.natAbs
  let least := directive.precision.getD 0
  let padded := List.replicate (least - digits.length) '0' ++ digits
  let body := if capital then padded.map Char.toUpper else padded
  let mark := if directive.alternate then mark else []
  place directive true (signText directive (value < 0)) mark body

def realOf (value : Datum foreign) : Except Fault Binary64 :=
  match value.numeral with
  | .float value => .ok value
  | .bool value => .ok (.ofInt (if value then 1 else 0))
  | .int value =>
    match Binary64.ofInt value with
    | .infinite _ => .error .tooLargeForReal
    | number => .ok number
  | _ => .error (.notReal value.typeName)

/-- Writes a point after the digits if there is none. -/
def withPoint (digits : List Char) : List Char :=
  if digits.contains '.' then digits
  else
    let (significand, exponent) := partitionAt (· == 'e') digits
    significand ++ '.' ::
      (match exponent with
      | some exponent => 'e' :: exponent
      | none => [])

/-- The digits of a magnitude under a conversion. -/
def realDigits (directive : Directive) (conversion : Char) (mantissa : Nat) (exponent : Int) :
    List Char :=
  let precision := directive.precision.getD 6
  let digits :=
    if conversion == 'f' then fixedMagnitude precision mantissa exponent
    else if conversion == 'e' then scientificMagnitude precision mantissa exponent
    else generalMagnitude directive.alternate precision mantissa exponent
  if directive.alternate then withPoint digits else digits

/-- A binary number; a capital conversion writes capitals. -/
def placeReal (directive : Directive) (conversion : Char) (number : Binary64) : List Char :=
  let (negative, body) :=
    match number with
    | .notANumber => (false, "nan".toList)
    | .infinite negative => (negative, "inf".toList)
    | .finite negative mantissa exponent =>
      (negative, realDigits directive conversion.toLower mantissa exponent)
  let body := if conversion.isUpper then body.map Char.toUpper else body
  place directive true (signText directive negative) [] body

/-- One character, given as itself or by its code. -/
def characterOf (value : Datum foreign) : Except Fault Char :=
  match value.text? with
  | some text =>
    match text.toList with
    | [char] => .ok char
    | _ => .error .notCharacter
  | none =>
    match value.numeral with
    | .int value => ofCode value
    | .bool value => ofCode (if value then 1 else 0)
    | _ => .error .notCharacter
where
  ofCode (code : Int) : Except Fault Char :=
    if 0 ≤ code && code < 0x110000 then .ok (Char.ofNat code.toNat)
    else .error .characterOutOfRange

/-- Digits of a whole number are not filled up beyond this precision. -/
def checkPrecision (directive : Directive) (value : Int) : Except Fault Int :=
  if CountRole.precision.bound - 4 < directive.precision.getD 0 then .error .precisionTooBig
  else .ok value

/-- Writes a value as a directive says; `room` is how deep values that are shown may lie inside
each other. -/
def convert (room : Nat) (directive : Directive) (conversion : Char) (index : Nat)
    (value : Datum foreign) : Except Fault (List Char) :=
  match conversion with
  | 's' => (shown (value.displayWithin room)).map (placeText directive)
  | 'r' => (shown (value.inspectWithin room)).map (placeText directive)
  | 'a' => (shown (value.inspectWithin room)).map fun text => placeText directive (escapeText text)
  | 'd' | 'i' | 'u' =>
    ((checked (wholeOf conversion value)).bind checkDecimal).map (placeWhole directive 10 [] false)
  | 'o' => (checked (exactWholeOf conversion value)).map (placeWhole directive 8 ['0', 'o'] false)
  | 'x' => (checked (exactWholeOf conversion value)).map (placeWhole directive 16 ['0', 'x'] false)
  | 'X' => (checked (exactWholeOf conversion value)).map (placeWhole directive 16 ['0', 'X'] true)
  | 'e' | 'E' | 'f' | 'F' | 'g' | 'G' => (realOf value).map (placeReal directive conversion)
  | 'c' => (characterOf value).map fun char => place directive false [] [] [char]
  | other => .error (.unknownConversion other index)
where
  checked (whole : Except Fault Int) : Except Fault Int := whole.bind (checkPrecision directive)
  shown (text : Except ShowFault String) : Except Fault String := text.mapError .value

/-- A length mark before the conversion has no meaning. -/
def dropLengthMark : List Char → List Char
  | char :: rest => if char == 'h' || char == 'l' || char == 'L' then rest else char :: rest
  | [] => []

/-- One directive after its per cent sign: what it writes, what follows, and the values
left. `size` is the length of the whole template. -/
def fillDirective (room size : Nat) (values : Values foreign) (text : List Char) :
    Except Fault (List Char × List Char × Values foreign) := do
  if text.head? == some '%' then
    return (['%'], text.tail, values)
  let (directive, text, values) ← readDirective values text
  match dropLengthMark text with
  | [] => throw .incomplete
  | conversion :: rest =>
    let (value, values) ← values.next
    let written ← convert room directive conversion (size - rest.length - 1) value
    return (written, rest, values)

/-- Fills the rest of a template; every directive takes at least one character. -/
def fillFrom (room size : Nat) : Nat → Values foreign → List Char → Except Fault (List Char)
  | _, values, [] => (values.finish).map fun _ => []
  | 0, _, text => .ok text
  | fuel + 1, values, '%' :: rest => do
    let (written, rest, values) ← fillDirective room size values rest
    return written ++ (← fillFrom room size fuel values rest)
  | fuel + 1, values, char :: rest => do
    return char :: (← fillFrom room size fuel values rest)

end Template

def fillTemplate {foreign : Prop} (room : Nat) (template : String) (value : Datum foreign) :
    Except Template.Fault String :=
  let text := template.toList
  (Template.fillFrom room text.length text.length (Template.Values.ofDatum value) text).map
    String.ofList

end ForwardedClient.Data
