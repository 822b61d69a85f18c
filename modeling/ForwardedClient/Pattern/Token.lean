/-!
Contract: the tokens of a pattern.

Owns: `Token`, a character or a character behind a backslash, and the split of a text into
tokens, which tells whether a backslash is left over at the end.

Does not own: what the tokens mean.
-/

namespace ForwardedClient.Pattern

/-- A character as it stands, or behind a backslash. -/
inductive Token where
  | plain (char : Char)
  | escaped (char : Char)
deriving DecidableEq

namespace Token

def chars : Token → List Char
  | .plain char => [char]
  | .escaped char => ['\\', char]

def text (token : Token) : String := String.ofList token.chars

def width : Token → Nat
  | .plain _ => 1
  | .escaped _ => 2

def plain? : Token → Option Char
  | .plain char => some char
  | .escaped _ => none

/-- Whether a token stands behind the parts of an alternative. -/
def endsSequence (token : Token) : Bool := token == .plain '|' || token == .plain ')'

end Token

/-- The tokens of a text, and whether a single backslash follows them. -/
def tokens : List Char → List Token × Bool
  | [] => ([], false)
  | '\\' :: [] => ([], true)
  | '\\' :: char :: rest =>
    let (others, dangling) := tokens rest
    (.escaped char :: others, dangling)
  | char :: rest =>
    let (others, dangling) := tokens rest
    (.plain char :: others, dangling)

theorem tokens_chars (text : List Char) :
    (tokens text).1.flatMap Token.chars ++ (if (tokens text).2 then ['\\'] else []) = text := by
  fun_induction tokens text with
  | case1 => rfl
  | case2 => rfl
  | case3 char rest others dangling scanned inductionHypothesis =>
    simp only [scanned] at inductionHypothesis
    simp [Token.chars, inductionHypothesis]
  | case4 char rest notBackslash notEscape others dangling scanned inductionHypothesis =>
    simp only [scanned] at inductionHypothesis
    simp [Token.chars, inductionHypothesis]

end ForwardedClient.Pattern
