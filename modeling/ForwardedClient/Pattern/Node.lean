import ForwardedClient.Pattern.CharClass

/-!
Contract: the tree of a pattern.

Owns: `Node`, the places an anchor accepts, the least and greatest number of characters a
node can take, and how deep its parts lie inside each other.

Does not own: the reader that builds trees and the matcher that runs them.
-/

namespace ForwardedClient.Pattern

inductive Anchor where
  | textStart
  | lineStart
  | textStop
  | lastLineStop
  | lineStop
  | wordBoundary (negated ascii : Bool)
deriving DecidableEq

inductive Greed where
  | greedy
  | lazy
  | possessive
deriving DecidableEq

/-- Widths are not distinguished beyond this bound. -/
def widthBound : Nat := Nat.pow 2 64

structure Width where
  least : Nat := 0
  most : Nat := 0
deriving DecidableEq

namespace Width

def cap (width : Width) : Width := ⟨min width.least widthBound, min width.most widthBound⟩

def add (first second : Width) : Width :=
  cap ⟨first.least + second.least, first.most + second.most⟩

def either (first second : Width) : Width :=
  ⟨min first.least second.least, max first.most second.most⟩

/-- The width of a repetition; without an upper count the most is unbounded, unless each
turn is empty. -/
def times (width : Width) (least : Nat) (most : Option Nat) : Width :=
  cap ⟨width.least * least,
    match most with
    | some most => width.most * most
    | none => if width.most == 0 then 0 else widthBound⟩

end Width

inductive Node where
  | empty
  | one (charClass : CharClass)
  | anchored (anchor : Anchor)
  | seq (first second : Node)
  | alt (first second : Node)
  | group (index : Nat) (body : Node)
  | repeated (greed : Greed) (least : Nat) (most : Option Nat) (body : Node)
  | atomic (body : Node)
  | ahead (negated : Bool) (body : Node)
  | behind (negated : Bool) (body : Node)
  | sameAs (index : Nat) (width : Width) (mode : CharMode)
  | ifGroup (index : Nat) (present absent : Node)
deriving DecidableEq

namespace Node

def width : Node → Width
  | .empty | .anchored _ | .ahead _ _ | .behind _ _ => {}
  | .one _ => ⟨1, 1⟩
  | .seq first second => first.width.add second.width
  | .alt first second => first.width.either second.width
  | .group _ body | .atomic body => body.width
  | .repeated _ least most body => body.width.times least most
  | .sameAs _ width _ => width
  | .ifGroup _ present absent => present.width.either absent.width

/-- How many calls are nested where a tree is compiled: one for each group, repetition, look
around and choice that lies inside another one. All alternatives of a choice are at one level. -/
def depth : Node → Nat
  | .empty | .one _ | .anchored _ | .sameAs _ _ _ => 0
  | .seq first second => max first.depth second.depth
  | .alt first (.alt second third) => max (first.depth + 1) (depth (.alt second third))
  | .alt first second => max first.depth second.depth + 1
  | .group _ body | .repeated _ _ _ body | .atomic body | .ahead _ body | .behind _ body =>
    body.depth + 1
  | .ifGroup _ present absent => max present.depth absent.depth + 1

def ofList : List Node → Node
  | [] => .empty
  | [node] => node
  | node :: rest => .seq node (ofList rest)

end Node

end ForwardedClient.Pattern
