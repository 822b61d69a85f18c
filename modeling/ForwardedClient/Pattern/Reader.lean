import ForwardedClient.Pattern.Error
import ForwardedClient.Pattern.Node
import ForwardedClient.Pattern.Token
import ForwardedClient.Text.CharacterName

/-!
Contract: reading the text of a pattern into a tree.

Owns: the reader's position and what it knows about groups and flags, the escapes, character
classes, repetitions and parenthesised forms, and the final checks on lookbehinds and group
numbers. The first fault in reading order is reported. Calls of the reader that are open at
the same time are bounded by a room, which is used up by parentheses inside each other.

Does not own: running the tree, and how much room there is.
-/

namespace ForwardedClient.Pattern

open ForwardedClient.Text

structure Flags where
  ignoreCase : Bool := false
  multiLine : Bool := false
  dotAll : Bool := false
  verbose : Bool := false
  ascii : Bool := false
  unicode : Bool := false
  template : Bool := false
deriving DecidableEq

def Flags.charMode (flags : Flags) : CharMode := ⟨flags.ignoreCase, flags.ascii⟩

/-- What the reader knows: the tokens left, the position of the next one, the flags of the
whole pattern, the width of each group once it is closed, the names of groups, how many
groups there were when the outermost lookbehind began, and the first mention of each number
that a conditional asks for. -/
structure ReadState where
  left : List Token
  dangling : Bool
  position : Nat := 0
  flags : Flags := {}
  groups : List (Option Width) := [none]
  names : List (String × Nat) := []
  lookbehindFrom : Option Nat := none
  mentions : List (Nat × Nat) := []

abbrev Read := StateT ReadState (Except PatternError)

namespace Read

/-- Reports a fault a number of characters before the next token. -/
def fail {α : Type} (cause : Cause) (back : Nat := 0) : Read α := do
  throw (.malformed cause (some ((← get).position - back)))

def peek : Read (Option Token) := return (← get).left.head?

def position : Read Nat := return (← get).position

def checkDangling : Read Unit := do
  let state ← get
  if state.left.isEmpty && state.dangling then
    throw (.malformed .danglingBackslash (some state.position))

def next : Read (Option Token) := do
  let state ← get
  match state.left with
  | [] => return none
  | token :: rest =>
    set { state with left := rest, position := state.position + token.width }
    checkDangling
    return some token

def accept (char : Char) : Read Bool := do
  if (← peek) == some (.plain char) then
    let _ ← next
    return true
  else
    return false

def takeUpTo (isMember : Char → Bool) : Nat → Read (List Char)
  | 0 => return []
  | count + 1 => do
    match ← peek with
    | some (.plain char) =>
      if isMember char then
        let _ ← next
        return char :: (← takeUpTo isMember count)
      else
        return []
    | _ => return []

/-- Takes the text before a terminator and the terminator itself. -/
def takeName (terminator : Char) (what : String) : Nat → List Char → Read (List Char)
  | 0, _ => throw (.malformed .unfinished none)
  | fuel + 1, taken => do
    match ← next with
    | none =>
      if taken.isEmpty then fail (.missing what)
      else
        fail (.missing (String.singleton terminator ++ ", unterminated name")) taken.length
    | some token =>
      if token == .plain terminator then
        if taken.isEmpty then fail (.missing what) 1 else return taken
      else
        takeName terminator what fuel (taken ++ token.chars)

def nameUntil (terminator : Char) (what : String) : Read (List Char) := do
  takeName terminator what ((← get).left.length + 1) []

def checkName (name : List Char) : Read Unit := do
  unless isIdentifier name do
    fail (.badGroupName (String.ofList name)) (name.length + 1)

def isClosed (index : Nat) : Read Bool := do
  return ((← get).groups[index]?).join.isSome

/-- Refuses a reference from a lookbehind to a group that is open or lies inside it. -/
def checkLookbehind (index : Nat) : Read Unit := do
  match (← get).lookbehindFrom with
  | none => return ()
  | some first =>
    unless ← isClosed index do
      fail .openGroup
    if first ≤ index then
      fail .groupOfSameLookbehind

def reference (flags : Flags) (index : Nat) : Read Node := do
  let width := (((← get).groups[index]?).join).getD {}
  return .sameAs index width flags.charMode

end Read

open Read

def isOctalDigit (char : Char) : Bool := '0' ≤ char && char ≤ '7'

def octalValue (digits : List Char) : Nat :=
  digits.foldl (fun value digit => 8 * value + (digit.toNat - '0'.toNat)) 0

def controlEscape? : Char → Option Nat
  | 'a' => some 7
  | 'b' => some 8
  | 'f' => some 12
  | 'n' => some 10
  | 'r' => some 13
  | 't' => some 9
  | 'v' => some 11
  | '\\' => some 92
  | _ => none

def kindEscape? : Char → Option ClassItem
  | 'd' => some (.ofKind .digit false)
  | 'D' => some (.ofKind .digit true)
  | 's' => some (.ofKind .blank false)
  | 'S' => some (.ofKind .blank true)
  | 'w' => some (.ofKind .word false)
  | 'W' => some (.ofKind .word true)
  | _ => none

def anchorEscape? (flags : Flags) : Char → Option Anchor
  | 'A' => some .textStart
  | 'Z' => some .textStop
  | 'b' => some (.wordBoundary false flags.ascii)
  | 'B' => some (.wordBoundary true flags.ascii)
  | _ => none

/-- A code point with an exact number of hexadecimal digits after its letter. -/
def readHexEscape (letter : Char) (count : Nat) : Read Nat := do
  let digits ← takeUpTo isHexDigit count
  let escape := String.ofList ('\\' :: letter :: digits)
  if digits.length != count then
    fail (.incompleteEscape escape) (digits.length + 2)
  let value := hexValue digits
  if 0x80000000 ≤ value then
    throw .codePointTooLarge
  if 0x110000 ≤ value then
    fail (.badEscape escape) (digits.length + 2)
  return value

def readNamedEscape : Read Nat := do
  unless ← accept '\x7b' do
    fail (.missing "\x7b")
  let name ← nameUntil '\x7d' "character name"
  match characterByName? (String.ofList name) with
  | some code => return code
  | none => fail (.undefinedCharacterName (String.ofList name)) (name.length + 4)

/-- The escapes that mean the same inside and outside of a class. -/
def readCodeEscape? (letter : Char) : Read (Option Nat) := do
  match letter with
  | 'x' => return some (← readHexEscape 'x' 2)
  | 'u' => return some (← readHexEscape 'u' 4)
  | 'U' => return some (← readHexEscape 'U' 8)
  | 'N' => return some (← readNamedEscape)
  | _ => return none

/-- The value of an octal escape, which must fit into a byte. -/
def checkOctal (digits : List Char) : Read Nat := do
  let value := octalValue digits
  if 0xFF < value then
    fail (.octalOutOfRange (String.ofList ('\\' :: digits))) (digits.length + 1)
  return value

/-- A letter or digit without a meaning of its own is refused, any other character stands
for itself. -/
def readPlainEscape (char : Char) : Read Nat := do
  if isAsciiAlphanumeric char then
    fail (.badEscape (String.ofList ['\\', char])) 2
  return char.toNat

def readClassEscape (char : Char) : Read ClassItem := do
  match controlEscape? char with
  | some code => return .code code
  | none =>
  match kindEscape? char with
  | some item => return item
  | none =>
  match ← readCodeEscape? char with
  | some code => return .code code
  | none =>
    if isOctalDigit char then
      let others ← takeUpTo isOctalDigit 2
      return .code (← checkOctal (char :: others))
    else
      return .code (← readPlainEscape char)

/-- A decimal digit other than zero behind a backslash: three octal digits are a character,
anything else is the number of a group. -/
def readDigitEscape (flags : Flags) (first : Char) : Read Node := do
  let second ← takeUpTo isAsciiDigit 1
  let third ←
    if (first :: second).all isOctalDigit && !second.isEmpty then takeUpTo isOctalDigit 1
    else pure []
  let digits := first :: second ++ third
  if digits.length == 3 then
    return .one (.single flags.charMode (← checkOctal digits))
  let index := decimalValue digits
  if index < (← get).groups.length then
    unless ← isClosed index do
      fail .openGroup (digits.length + 1)
    checkLookbehind index
    reference flags index
  else
    fail (.noSuchGroup index) digits.length

def readEscape (flags : Flags) (char : Char) : Read Node := do
  match anchorEscape? flags char with
  | some anchor => return .anchored anchor
  | none =>
  match kindEscape? char with
  | some item => return .one { items := [item], mode := flags.charMode }
  | none =>
  match controlEscape? char with
  | some code => return .one (.single flags.charMode code)
  | none =>
  match ← readCodeEscape? char with
  | some code => return .one (.single flags.charMode code)
  | none =>
    if char == '0' then
      let others ← takeUpTo isOctalDigit 2
      return .one (.single flags.charMode (octalValue others))
    else if isAsciiDigit char then
      readDigitEscape flags char
    else
      return .one (.single flags.charMode (← readPlainEscape char))

/-- One end of a range inside a class, or a single member. -/
def readClassMember : Token → Read ClassItem
  | .plain char => return .code char.toNat
  | .escaped char => readClassEscape char

/-- The members of a class up to its closing bracket, which stands for itself where it
comes first. `opening` is where the class began. -/
def readClassItems (opening : Nat) : Nat → List ClassItem → Read (List ClassItem)
  | 0, _ => throw (.malformed .unfinished none)
  | fuel + 1, items => do
    let unterminated {α : Type} : Read α := do
      throw (.malformed .unterminatedSet (some opening))
    match ← next with
    | none => unterminated
    | some this =>
      if this == .plain ']' && !items.isEmpty then
        return items
      let member ← readClassMember this
      if ← accept '-' then
        match ← next with
        | none => unterminated
        | some that =>
          if that == .plain ']' then
            return items ++ [member, .code '-'.toNat]
          let last ← readClassMember that
          match member, last with
          | .code low, .code high =>
            if high < low then
              fail (.badRange this.text that.text) (this.width + 1 + that.width)
            readClassItems opening fuel (items ++ [.range low high])
          | _, _ => fail (.badRange this.text that.text) (this.width + 1 + that.width)
      else
        readClassItems opening fuel (items ++ [member])

def readClass (flags : Flags) : Read Node := do
  let opening := (← position) - 1
  let negated ← accept '^'
  let items ← readClassItems opening ((← get).left.length + 1) []
  return .one { items, negated, mode := flags.charMode }

/-- A part of a sequence. A parenthesised part may be repeated even if what stands inside is
itself repeated or an anchor. -/
structure Part where
  node : Node
  enclosed : Bool := false

namespace Part

def isAnchor (part : Part) : Bool :=
  match part.node with
  | .anchored _ => !part.enclosed
  | _ => false

def isRepeated (part : Part) : Bool :=
  match part.node with
  | .repeated .. => !part.enclosed
  | _ => false

end Part

/-- Repetition counts at or above this bound are refused. -/
def countBound : Nat := 4294967295

def checkCount (digits : List Char) : Read (Option Nat) := do
  if digits.isEmpty then
    return none
  let count := decimalValue digits
  if countBound ≤ count then
    throw .countTooLarge
  return some count

/-- The counts between braces after the opening one; `none` if the brace stands for itself. -/
def readCounts : Read (Option (Nat × Option Nat)) := do
  let start ← get
  if (← peek) == some (.plain '\x7d') then
    return none
  let low ← takeUpTo isAsciiDigit start.left.length
  let high ← if ← accept ',' then takeUpTo isAsciiDigit start.left.length else pure low
  unless ← accept '\x7d' do
    set start
    return none
  let least ← checkCount low
  let most ← checkCount high
  match most with
  | some most =>
    if most < least.getD 0 then
      throw (.malformed .countsReversed (some start.position))
  | none => pure ()
  return some (least.getD 0, most)

/-- The counts of a repetition sign; `none` if it is a brace that stands for itself. -/
def readRepeat (sign : Char) : Read (Option (Nat × Option Nat)) := do
  match sign with
  | '?' => return some (0, some 1)
  | '*' => return some (0, none)
  | '+' => return some (1, none)
  | _ => readCounts

def readGreed : Read Greed := do
  if ← accept '?' then
    return .lazy
  if ← accept '+' then
    return .possessive
  return .greedy

/-- Repeats the last part of a sequence; `signPosition` is where its sign stands. -/
def repeatLast (signPosition : Nat) (parts : List Part) (least : Nat) (most : Option Nat) :
    Read (List Part) := do
  match parts with
  | [] => throw (.malformed .nothingToRepeat (some signPosition))
  | part :: earlier =>
    if part.isAnchor then
      throw (.malformed .nothingToRepeat (some signPosition))
    if part.isRepeated then
      throw (.malformed .repeatedTwice (some signPosition))
    let greed ← readGreed
    return { node := .repeated greed least most part.node } :: earlier

inductive Flag where
  | ignoreCase
  | locale
  | multiLine
  | dotAll
  | verbose
  | ascii
  | template
  | unicode
deriving DecidableEq

namespace Flag

def ofChar? : Char → Option Flag
  | 'i' => some .ignoreCase
  | 'L' => some .locale
  | 'm' => some .multiLine
  | 's' => some .dotAll
  | 'x' => some .verbose
  | 'a' => some .ascii
  | 't' => some .template
  | 'u' => some .unicode
  | _ => none

/-- Flags that choose a character set and exclude each other. -/
def isType (flag : Flag) : Bool := flag == .ascii || flag == .unicode || flag == .locale

end Flag

def flagOf? (token : Token) : Option Flag := token.plain?.bind Flag.ofChar?

/-- Letters that are no flag are told apart from other characters. -/
def flagFault (expected : String) (token : Token) : Cause :=
  if token.plain?.any isLetter then .unknownFlag else .missing expected

/-- Flags to turn on after the first one, up to `)`, `-` or `:`, which is returned too. -/
def readFlagsOn : Nat → Flag → List Flag → Read (List Flag × Char)
  | 0, _, _ => throw (.malformed .unfinished none)
  | fuel + 1, flag, earlier => do
    if flag == .locale then
      fail .localeFlag
    let flags := earlier ++ [flag]
    if flag.isType && flags.any (fun other => other.isType && other != flag) then
      fail .incompatibleFlags
    match ← next with
    | none => fail (.missing "-, : or )")
    | some token =>
      match token.plain? with
      | some ')' => return (flags, ')')
      | some '-' => return (flags, '-')
      | some ':' => return (flags, ':')
      | _ =>
        match flagOf? token with
        | some flag => readFlagsOn fuel flag flags
        | none => fail (flagFault "-, : or )" token) token.width

/-- Flags to turn off after the first one, up to a colon. -/
def readFlagsOff : Nat → Flag → List Flag → Read (List Flag)
  | 0, _, _ => throw (.malformed .unfinished none)
  | fuel + 1, flag, earlier => do
    if flag.isType then
      fail .typeFlagOff
    let flags := earlier ++ [flag]
    match ← next with
    | none => fail (.missing ":")
    | some token =>
      if token == .plain ':' then
        return flags
      match flagOf? token with
      | some flag => readFlagsOff fuel flag flags
      | none => fail (flagFault ":" token) token.width

def Flags.with (flags : Flags) (value : Bool) : Flag → Flags
  | .ignoreCase => { flags with ignoreCase := value }
  | .multiLine => { flags with multiLine := value }
  | .dotAll => { flags with dotAll := value }
  | .verbose => { flags with verbose := value }
  | .ascii => { flags with ascii := value }
  | .unicode => { flags with unicode := value }
  | .template => { flags with template := value }
  | .locale => flags

/-- The flags inside a group that turns some on and some off; a new character set replaces
the one in force. -/
def Flags.scoped (flags : Flags) (on off : List Flag) : Flags :=
  let base :=
    if on.any Flag.isType then { flags with ascii := false, unicode := false } else flags
  off.foldl (fun flags flag => flags.with false flag)
    (on.foldl (fun flags flag => flags.with true flag) base)

inductive FlagScope where
  | wholePattern
  | group (on off : List Flag)

/-- Flags after the question mark of a parenthesis; `first` is the first token of them. -/
def readFlags (first : Token) : Read FlagScope := do
  let fuel := (← get).left.length + 2
  let (on, stop) ←
    match flagOf? first with
    | some flag => readFlagsOn fuel flag []
    | none => pure ([], '-')
  if stop == ')' then
    modify fun state =>
      { state with flags := on.foldl (fun flags flag => flags.with true flag) state.flags }
    return .wholePattern
  if on.contains .template then
    fail .globalFlagOn 1
  let off ←
    if stop == '-' then
      match ← next with
      | none => fail (.missing "flag")
      | some token =>
        match flagOf? token with
        | some flag => readFlagsOff fuel flag []
        | none => fail (flagFault "flag" token) token.width
    else pure []
  if off.contains .template then
    fail .globalFlagOff 1
  if off.any on.contains then
    fail .flagOnAndOff 1
  return .group on off

def openGroup (name : Option (List Char)) : Read Nat := do
  let state ← get
  let index := state.groups.length
  match name with
  | none => set { state with groups := state.groups ++ [none] }
  | some name =>
    let text := String.ofList name
    match state.names.lookup text with
    | some former => fail (.groupRedefined text index former) (name.length + 1)
    | none =>
      set { state with groups := state.groups ++ [none], names := (text, index) :: state.names }
  return index

def closeGroup (index : Nat) (body : Node) : Read Unit :=
  modify fun state => { state with groups := state.groups.set index (some body.width) }

def skipComment (opening : Nat) : Nat → Read Unit
  | 0 => throw (.malformed .unfinished none)
  | fuel + 1 => do
    match ← next with
    | none => throw (.malformed (.missing "), unterminated comment") (some opening))
    | some token => unless token == .plain ')' do skipComment opening fuel

def skipLine : Nat → Read Unit
  | 0 => return ()
  | fuel + 1 => do
    match ← next with
    | none => return ()
    | some token => unless token == .plain '\n' do skipLine fuel

def closeParenthesis (opening : Nat) : Read Unit := do
  unless ← accept ')' do
    throw (.malformed (.missing "), unterminated subpattern") (some opening))

/-- Digits with single low lines between them, as one number. -/
def readNumeral : List Char → Option Nat
  | [] => none
  | first :: rest => do
    let start ← decimalDigitValue? first
    let (value, afterDigit) ← rest.foldlM (fun (state : Nat × Bool) char =>
      if char == '_' then (if state.2 then some (state.1, false) else none)
      else (decimalDigitValue? char).map fun digit => (10 * state.1 + digit, true)) (start, true)
    if afterDigit then some value else none

/-- A whole number with an optional sign between blanks; `none` if it is negative or no
number. -/
def readGroupNumber (text : List Char) : Option Nat :=
  match strip text with
  | '+' :: digits => readNumeral digits
  | '-' :: digits => (readNumeral digits).bind fun value => if value == 0 then some 0 else none
  | digits => readNumeral digits

/-- Group numbers at or above this bound are refused at once. -/
def groupBound : Nat := 1073741823

/-- The group that a conditional asks for, by name or by number. -/
def readCondition : Read Nat := do
  let name ← nameUntil ')' "group name"
  let text := String.ofList name
  let index ←
    if isIdentifier name then
      match (← get).names.lookup text with
      | some index => pure index
      | none => fail (.unknownGroupName text) (name.length + 1)
    else
      match readGroupNumber name with
      | none => fail (.badGroupName text) (name.length + 1)
      | some index =>
        if index == 0 then
          fail .badGroupNumber (name.length + 1)
        if groupBound ≤ index then
          fail (.noSuchGroup index) (name.length + 1)
        let place := (← position) - name.length - 1
        modify fun state =>
          if (state.mentions.lookup index).isSome then state
          else { state with mentions := state.mentions ++ [(index, place)] }
        pure index
  checkLookbehind index
  return index

def readNamedReference (flags : Flags) : Read Node := do
  let name ← nameUntil ')' "group name"
  checkName name
  match (← get).names.lookup (String.ofList name) with
  | none => fail (.unknownGroupName (String.ofList name)) (name.length + 1)
  | some index =>
    unless ← isClosed index do
      fail .openGroup (name.length + 1)
    checkLookbehind index
    reference flags index

inductive Form where
  | group (name : Option (List Char))
  | plain (on off : List Flag)
  | atomic
  | look (behind negated : Bool)
  | conditional
  | reference
  | comment
  | wholePattern

/-- The form that stands between an opening parenthesis and its body. -/
def readForm : Read Form := do
  unless ← accept '?' do
    return .group none
  match ← next with
  | none => fail .unexpectedEnd
  | some token =>
    match token.plain? with
    | some 'P' =>
      if ← accept '<' then
        let name ← nameUntil '>' "group name"
        checkName name
        return .group (some name)
      else if ← accept '=' then
        return .reference
      else
        match ← next with
        | none => fail .unexpectedEnd
        | some other =>
          fail (.unknownExtension ("P" ++ other.text)) (other.width + 2)
    | some ':' => return .plain [] []
    | some '#' => return .comment
    | some '=' => return .look false false
    | some '!' => return .look false true
    | some '<' =>
      match ← next with
      | none => fail .unexpectedEnd
      | some (.plain '=') => return .look true false
      | some (.plain '!') => return .look true true
      | some other => fail (.unknownExtension ("<" ++ other.text)) (other.width + 2)
    | some '(' => return .conditional
    | some '>' => return .atomic
    | _ =>
      if token == .plain '-' || (flagOf? token).isSome then
        match ← readFlags token with
        | .wholePattern => return .wholePattern
        | .group on off => return .plain on off
      else
        fail (.unknownExtension token.text) (token.width + 1)

/-- Opens one more call of the reader, as long as there is room. -/
def descend {α : Type} (room : Nat) (call : Nat → Read α) : Read α :=
  match room with
  | 0 => throw (.malformed .nestedTooDeep none)
  | room + 1 => call room

def isVerboseBlank (char : Char) : Bool :=
  char == ' ' || char == '\t' || char == '\n' || char == '\r' || char == '\x0b' ||
    char == '\x0c'

mutual

/-- Alternatives between bars. At the top level later alternatives take up flags that the
first one set for the whole pattern. -/
def readAlternatives (fuel room : Nat) (flags : Flags) (top first : Bool) : Read Node := do
  match fuel with
  | 0 => throw (.malformed .unfinished none)
  | fuel + 1 =>
    let node ← descend room fun room => readSequence fuel room flags (top && first) []
    if ← accept '|' then
      let later ← if top then pure (← get).flags else pure flags
      return .alt node (← readAlternatives fuel room later top false)
    else
      return node

/-- The parts of one alternative, last one first, up to a bar, a closing parenthesis or the
end. `first` tells whether flags for the whole pattern may stand here. -/
def readSequence (fuel room : Nat) (flags : Flags) (first : Bool) (parts : List Part) :
    Read Node := do
  match fuel with
  | 0 => throw (.malformed .unfinished none)
  | fuel + 1 =>
    let finish : Read Node := return .ofList (parts.reverse.map (·.node))
    let continueWith (node : Node) : Read Node :=
      readSequence fuel room flags first ({ node } :: parts)
    let signPosition ← position
    if (← peek).all Token.endsSequence then finish
    else
      match ← next with
      | none => finish
      | some (.escaped char) => continueWith (← readEscape flags char)
      | some (.plain char) =>
        if flags.verbose && isVerboseBlank char then
          readSequence fuel room flags first parts
        else if flags.verbose && char == '#' then
          skipLine ((← get).left.length + 1)
          readSequence fuel room flags first parts
        else
          match char with
          | '[' => continueWith (← readClass flags)
          | '.' => continueWith (.one (.anyChar flags.dotAll))
          | '^' => continueWith (.anchored (if flags.multiLine then .lineStart else .textStart))
          | '$' => continueWith (.anchored (if flags.multiLine then .lineStop else .lastLineStop))
          | '(' => readParenthesis fuel room flags first parts signPosition
          | _ =>
            if char == '?' || char == '*' || char == '+' || char == '\x7b' then
              match ← readRepeat char with
              | none => continueWith (.one (.single flags.charMode char.toNat))
              | some (least, most) =>
                readSequence fuel room flags first (← repeatLast signPosition parts least most)
            else
              continueWith (.one (.single flags.charMode char.toNat))

/-- A parenthesised form that began at `opening`, and the parts after it. -/
def readParenthesis (fuel room : Nat) (flags : Flags) (first : Bool) (parts : List Part)
    (opening : Nat) : Read Node := do
  match fuel with
  | 0 => throw (.malformed .unfinished none)
  | fuel + 1 =>
    let continueWith (node : Node) : Read Node :=
      readSequence fuel room flags first ({ node, enclosed := true } :: parts)
    let readBody (flags : Flags) : Read Node :=
      descend room fun room => readAlternatives fuel room flags false false
    let readBranch : Read Node := descend room fun room => readSequence fuel room flags false []
    match ← readForm with
    | .comment =>
      skipComment opening ((← get).left.length + 1)
      readSequence fuel room flags first parts
    | .wholePattern =>
      if !first || !parts.isEmpty then
        throw (.malformed .lateGlobalFlags (some opening))
      readSequence fuel room (← get).flags first parts
    | .reference => continueWith (← readNamedReference flags)
    | .group name =>
      let index ← openGroup name
      let body ← readBody flags
      closeParenthesis opening
      closeGroup index body
      continueWith (.group index body)
    | .plain on off =>
      let body ← readBody (flags.scoped on off)
      closeParenthesis opening
      continueWith body
    | .atomic =>
      let body ← readBody flags
      closeParenthesis opening
      continueWith (.atomic body)
    | .look false negated =>
      let body ← readBody flags
      closeParenthesis opening
      continueWith (.ahead negated body)
    | .look true negated =>
      let outer := (← get).lookbehindFrom
      modify fun state =>
        { state with lookbehindFrom := some (outer.getD state.groups.length) }
      let body ← readBody flags
      modify fun state => { state with lookbehindFrom := outer }
      closeParenthesis opening
      continueWith (.behind negated body)
    | .conditional =>
      let index ← readCondition
      let present ← readBranch
      let absent ←
        if ← accept '|' then
          let absent ← readBranch
          if (← peek) == some (.plain '|') then
            fail .tooManyBranches
          pure absent
        else pure .empty
      closeParenthesis opening
      continueWith (.ifGroup index present absent)

end

def lookbehindBound : Nat := 4294967295

def Greed.label : Greed → String
  | .greedy => "MAX_REPEAT"
  | .lazy => "MIN_REPEAT"
  | .possessive => "POSSESSIVE_REPEAT"

/-- Checks that lookbehinds have one width and, under the template flag, that nothing is
repeated; the outermost and leftmost fault counts. -/
def Node.check (template : Bool) : Node → Except PatternError Unit
  | .empty | .one _ | .anchored _ | .sameAs _ _ _ => .ok ()
  | .seq first second | .alt first second | .ifGroup _ first second => do
    first.check template
    second.check template
  | .group _ body | .atomic body | .ahead _ body => body.check template
  | .repeated greed _ _ body => do
    if template then
      throw (.malformed (.templateRepeat greed.label) none)
    body.check template
  | .behind _ body => do
    let width := body.width
    if lookbehindBound < width.least then
      throw (.malformed .lookbehindTooLong none)
    if width.least != width.most then
      throw (.malformed .lookbehindVaries none)
    body.check template

def readPattern (room : Nat) : Read Node := do
  checkDangling
  let tokenCount := (← get).left.length
  let node ← descend room fun room => readAlternatives (4 * tokenCount + 4) room {} true true
  let state ← get
  if state.flags.ascii && state.flags.unicode then
    throw .conflictingFlags
  unless state.left.isEmpty do
    fail .unbalancedParenthesis
  match state.mentions.find? fun mention => state.groups.length ≤ mention.1 with
  | some (index, place) => throw (.malformed (.noSuchGroup index) (some place))
  | none => pure ()
  node.check state.flags.template
  return node

/-- The tree of a pattern, or its first fault, before it is compiled. -/
def Node.parse (room : Nat) (pattern : String) : Except PatternError Node :=
  let (left, dangling) := tokens pattern.toList
  ((readPattern room).run { left, dangling }).map (·.1)

/-- The tree of a pattern, or its first fault; parentheses that are nested deeper than there
is room for are one, and so is a tree that is too deep to be compiled. -/
def Node.readWithin (room : Nat) (pattern : String) : Except PatternError Node :=
  (Node.parse room pattern).bind fun node =>
    if node.depth < room then .ok node else .error (.malformed .nestedTooDeep none)

/-- The room that an interpreter with a stack of a thousand calls leaves to the reader of
patterns, below the calls that lead to it. -/
def stackRoom : Nat := 980

/-- The tree of a pattern, or its first fault, with room for all of its parentheses. -/
def Node.read (pattern : String) : Except PatternError Node :=
  Node.parse (2 * pattern.length + 2) pattern

end ForwardedClient.Pattern
