import ForwardedClient.Text.Quoted

/-!
Contract: why a text is no pattern.

Owns: the causes, their wording, and where in the text they are reported; a text of several
lines also gets line and column.

Does not own: how the reader finds them.
-/

namespace ForwardedClient.Pattern

open ForwardedClient.Text

/-- What is wrong with a text. Two causes are none of the text alone: parentheses may be nested
deeper than there is room for, and the reader might stop before the end, which no text makes it
do. -/
inductive Cause where
  | danglingBackslash
  | badEscape (escape : String)
  | incompleteEscape (escape : String)
  | octalOutOfRange (escape : String)
  | missing (what : String)
  | undefinedCharacterName (name : String)
  | openGroup
  | groupOfSameLookbehind
  | noSuchGroup (index : Nat)
  | unterminatedSet
  | badRange (first last : String)
  | countsReversed
  | nothingToRepeat
  | repeatedTwice
  | unexpectedEnd
  | unknownExtension (extension : String)
  | unknownGroupName (name : String)
  | badGroupName (name : String)
  | badGroupNumber
  | groupRedefined (name : String) (index former : Nat)
  | tooManyBranches
  | lateGlobalFlags
  | unknownFlag
  | localeFlag
  | incompatibleFlags
  | globalFlagOn
  | globalFlagOff
  | typeFlagOff
  | flagOnAndOff
  | unbalancedParenthesis
  | lookbehindVaries
  | lookbehindTooLong
  | templateRepeat (greed : String)
  | nestedTooDeep
  | unfinished
deriving DecidableEq

def Cause.message : Cause → String
  | .danglingBackslash => "bad escape (end of pattern)"
  | .badEscape escape => "bad escape " ++ escape
  | .incompleteEscape escape => "incomplete escape " ++ escape
  | .octalOutOfRange escape =>
    "octal escape value " ++ escape ++ " outside of range 0-0o377"
  | .missing what => "missing " ++ what
  | .undefinedCharacterName name => "undefined character name " ++ quoted name
  | .openGroup => "cannot refer to an open group"
  | .groupOfSameLookbehind =>
    "cannot refer to group defined in the same lookbehind subpattern"
  | .noSuchGroup index => "invalid group reference " ++ toString index
  | .unterminatedSet => "unterminated character set"
  | .badRange first last => "bad character range " ++ first ++ "-" ++ last
  | .countsReversed => "min repeat greater than max repeat"
  | .nothingToRepeat => "nothing to repeat"
  | .repeatedTwice => "multiple repeat"
  | .unexpectedEnd => "unexpected end of pattern"
  | .unknownExtension extension => "unknown extension ?" ++ extension
  | .unknownGroupName name => "unknown group name " ++ quoted name
  | .badGroupName name => "bad character in group name " ++ quoted name
  | .badGroupNumber => "bad group number"
  | .groupRedefined name index former =>
    "redefinition of group name " ++ quoted name ++ " as group " ++ toString index ++
      "; was group " ++ toString former
  | .tooManyBranches => "conditional backref with more than two branches"
  | .lateGlobalFlags => "global flags not at the start of the expression"
  | .unknownFlag => "unknown flag"
  | .localeFlag => "bad inline flags: cannot use 'L' flag with a str pattern"
  | .incompatibleFlags => "bad inline flags: flags 'a', 'u' and 'L' are incompatible"
  | .globalFlagOn => "bad inline flags: cannot turn on global flag"
  | .globalFlagOff => "bad inline flags: cannot turn off global flag"
  | .typeFlagOff => "bad inline flags: cannot turn off flags 'a', 'u' and 'L'"
  | .flagOnAndOff => "bad inline flags: flag turned on and off"
  | .unbalancedParenthesis => "unbalanced parenthesis"
  | .lookbehindVaries => "look-behind requires fixed-width pattern"
  | .lookbehindTooLong => "looks too much behind"
  | .templateRepeat greed => "internal: unsupported template operator " ++ greed
  | .nestedTooDeep => "maximum recursion depth exceeded"
  | .unfinished => "unfinished"

/-- Whether a cause is found in a text alone, however deep parentheses may be nested. -/
def Cause.isOfText : Cause → Bool
  | .nestedTooDeep | .unfinished => false
  | _ => true

/-- Why a text is no pattern: a fault with the place where it is reported, a number beyond
what the matcher can count, or two flags that exclude each other. -/
inductive PatternError where
  | malformed (cause : Cause) (position : Option Nat)
  | countTooLarge
  | codePointTooLarge
  | conflictingFlags
deriving DecidableEq

/-- Whether a failure is none that a reader of patterns reports as a fault of the text: a number
beyond what can be counted, or no room for more parentheses. -/
def PatternError.endsReading : PatternError → Bool
  | .countTooLarge | .codePointTooLarge | .malformed .nestedTooDeep _ => true
  | _ => false

def describePosition (pattern : List Char) (position : Nat) : String :=
  let before := pattern.take position
  let line := before.count '\n' + 1
  let column := (before.reverse.takeWhile (· != '\n')).length + 1
  " at position " ++ toString position ++
    (if pattern.contains '\n' then
      " (line " ++ toString line ++ ", column " ++ toString column ++ ")"
    else "")

def PatternError.message (pattern : String) : PatternError → String
  | .malformed cause none => cause.message
  | .malformed cause (some position) =>
    cause.message ++ describePosition pattern.toList position
  | .countTooLarge => "the repetition number is too large"
  | .codePointTooLarge => "Python int too large to convert to C int"
  | .conflictingFlags => "ASCII and UNICODE flags are incompatible"

end ForwardedClient.Pattern
