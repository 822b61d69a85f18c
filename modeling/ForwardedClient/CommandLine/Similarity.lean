/-!
Contract: which known words a mistyped word may have meant.

Owns: the common blocks of two words, their likeness, and `similar`, the words that are like
enough, the best first.

Does not own: how suggestions are worded.
-/

namespace ForwardedClient.CommandLine

def commonStart : List Char → List Char → Nat
  | left :: lefts, right :: rights => if left == right then commonStart lefts rights + 1 else 0
  | _, _ => 0

/-- A block that two texts have in common: where it starts in either, and its length. -/
structure Block where
  left : Nat := 0
  right : Nat := 0
  length : Nat := 0

/-- The longest common block; of several the one that starts first on the left, and then the
one that starts first on the right. -/
def longestBlock (left right : List Char) : Block :=
  (List.range left.length).foldl (fun best start =>
    (List.range right.length).foldl (fun best other =>
      let length := commonStart (left.drop start) (right.drop other)
      if best.length < length then ⟨start, other, length⟩ else best) best) {}

/-- The number of characters in common blocks: the longest one, and those before and after
it. Every block takes at least one character off the left text, which bounds the depth. -/
def matchedWithin : Nat → List Char → List Char → Nat
  | 0, _, _ => 0
  | depth + 1, left, right =>
    let block := longestBlock left right
    if block.length == 0 then 0
    else
      block.length +
        matchedWithin depth (left.take block.left) (right.take block.right) +
        matchedWithin depth (left.drop (block.left + block.length))
          (right.drop (block.right + block.length))

/-- A known word and how like it is to another: twice the characters in common, out of the
characters of both. -/
structure Likeness where
  word : String
  common : Nat
  total : Nat

namespace Likeness

def of (typed word : String) : Likeness :=
  ⟨word, 2 * matchedWithin word.length word.toList typed.toList, word.length + typed.length⟩

/-- At least six tenths. -/
def isEnough (likeness : Likeness) : Bool := 6 * likeness.total ≤ 10 * likeness.common

/-- Orders by likeness, then by the word, the greatest first. -/
def isBefore (left right : Likeness) : Bool :=
  let cross := left.common * right.total
  let other := right.common * left.total
  other < cross || (other == cross && right.word ≤ left.word)

end Likeness

def maxSuggestions : Nat := 3

/-- The known words that a typed word may have meant, the likeliest first. -/
def similar (typed : String) (known : List String) : List String :=
  let candidates := (known.map (Likeness.of typed)).filter Likeness.isEnough
  ((candidates.mergeSort Likeness.isBefore).take maxSuggestions).map (·.word)

end ForwardedClient.CommandLine
