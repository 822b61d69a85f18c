import ForwardedClient.Pattern.Node

/-!
Contract: whether a pattern accepts a whole text.

Owns: `Place`, a position in the text with the marks of the groups, and the backtracking
run of a tree, which tries alternatives in order and hands each success to the rest of the
pattern.

Does not own: searching; patterns are only ever compared with whole texts.
-/

namespace ForwardedClient.Pattern

open ForwardedClient.Text

/-- A position in a text: the characters before it, nearest first, and their number, the
characters after it, and where groups were last opened and closed. -/
structure Place where
  before : List Char := []
  offset : Nat := 0
  after : List Char
  opened : List (Nat × Nat) := []
  closed : List (Nat × Nat) := []
deriving DecidableEq

/-- What remains to be done from a place. -/
abbrev Rest := Place → Option Place

namespace Place

def step (place : Place) (char : Char) (rest : List Char) : Place :=
  { place with before := char :: place.before, offset := place.offset + 1, after := rest }

def rewind : Nat → Place → Place
  | 0, place => place
  | count + 1, place =>
    match place.before with
    | [] => place
    | char :: before =>
      rewind count
        { place with before, offset := place.offset - 1, after := char :: place.after }

def openGroup (place : Place) (index : Nat) : Place :=
  { place with opened := (index, place.offset) :: place.opened }

def closeGroup (place : Place) (index : Nat) : Place :=
  { place with closed := (index, place.offset) :: place.closed }

/-- The span of a group, if it has been closed after it was opened. -/
def span? (place : Place) (index : Nat) : Option (Nat × Nat) :=
  match place.opened.lookup index, place.closed.lookup index with
  | some first, some last => if first ≤ last then some (first, last) else none
  | _, _ => none

def groupText? (place : Place) (index : Nat) : Option (List Char) :=
  (place.span? index).map fun span =>
    ((place.before.reverse ++ place.after).drop span.1).take (span.2 - span.1)

end Place

/-- Whether the last character before and the next character after a place differ in being
word characters; no place of an empty text is a boundary or a non-boundary. -/
def boundaryHolds (negated ascii : Bool) (place : Place) : Bool :=
  let isWord := CharKind.word.holds ascii
  let between := place.before.head?.any isWord != place.after.head?.any isWord
  !(place.before.isEmpty && place.after.isEmpty) && between != negated

def Anchor.holds (place : Place) : Anchor → Bool
  | .textStart => place.before.isEmpty
  | .lineStart => place.before.isEmpty || place.before.head? == some '\n'
  | .textStop => place.after.isEmpty
  | .lastLineStop => place.after.isEmpty || place.after == ['\n']
  | .lineStop => place.after.isEmpty || place.after.head? == some '\n'
  | .wordBoundary negated ascii => boundaryHolds negated ascii place

/-- Whether two characters count as equal when a group's text is repeated. -/
def sameChar (mode : CharMode) (first second : Char) : Bool :=
  let image (char : Char) :=
    if !mode.ignoreCase then char.toNat
    else if mode.ascii then asciiLowerCode char.toNat
    else lowerCode char.toNat
  image first == image second

def takeText (mode : CharMode) : List Char → Place → Option Place
  | [], place => some place
  | expected :: others, place =>
    match place.after with
    | [] => none
    | char :: rest =>
      if sameChar mode expected char then takeText mode others (place.step char rest) else none

abbrev Turn := Place → Rest → Option Place

/-- Whether another optional turn may begin: the count allows it, and the place is not where
the last optional turn began. -/
def mayTurn (most : Option Nat) (last : Option Nat) (place : Place) : Bool :=
  most != some 0 && last != some place.offset

/-- Takes as many turns as it can before it goes on with the rest. -/
def runGreedy (turn : Turn) (rest : Rest) :
    Nat → Nat → Option Nat → Option Nat → Place → Option Place
  | 0, _, _, _, _ => none
  | fuel + 1, least + 1, most, last, place =>
    turn place fun next => runGreedy turn rest fuel least (most.map (· - 1)) last next
  | fuel + 1, 0, most, last, place =>
    if mayTurn most last place then
      match turn place fun next =>
          runGreedy turn rest fuel 0 (most.map (· - 1)) (some place.offset) next with
      | some final => some final
      | none => rest place
    else rest place

/-- Goes on with the rest as soon as it can before it takes another turn. -/
def runLazy (turn : Turn) (rest : Rest) :
    Nat → Nat → Option Nat → Option Nat → Place → Option Place
  | 0, _, _, _, _ => none
  | fuel + 1, least + 1, most, last, place =>
    turn place fun next => runLazy turn rest fuel least (most.map (· - 1)) last next
  | fuel + 1, 0, most, last, place =>
    match rest place with
    | some final => some final
    | none =>
      if mayTurn most last place then
        turn place fun next =>
          runLazy turn rest fuel 0 (most.map (· - 1)) (some place.offset) next
      else none

/-- Takes as many turns as it can, each in its first way, and never gives one back. -/
def runPossessive (turn : Turn) :
    Nat → Nat → Option Nat → Option Nat → Place → Option Place
  | 0, _, _, _, _ => none
  | fuel + 1, least + 1, most, last, place =>
    match turn place some with
    | some next => runPossessive turn fuel least (most.map (· - 1)) last next
    | none => none
  | fuel + 1, 0, most, last, place =>
    if mayTurn most last place then
      match turn place some with
      | some next =>
        runPossessive turn fuel 0 (most.map (· - 1)) (some place.offset) next
      | none => some place
    else some place

/-- Turns that can begin: the required ones, one per character left, and a last empty one. -/
def turnFuel (least : Nat) (place : Place) : Nat := least + place.after.length + 2

namespace Node

/-- Runs a tree from a place and goes on with the rest; the first success counts. -/
def run : Node → Place → Rest → Option Place
  | .empty, place, rest => rest place
  | .one charClass, place, rest =>
    match place.after with
    | [] => none
    | char :: chars => if charClass.contains char then rest (place.step char chars) else none
  | .anchored anchor, place, rest => if anchor.holds place then rest place else none
  | .seq first second, place, rest => first.run place fun next => second.run next rest
  | .alt first second, place, rest =>
    match first.run place rest with
    | some final => some final
    | none => second.run place rest
  | .group index body, place, rest =>
    body.run (place.openGroup index) fun next => rest (next.closeGroup index)
  | .repeated greed least most body, place, rest =>
    let turn : Turn := fun next onward => body.run next onward
    let fuel := turnFuel least place
    match greed with
    | .greedy => runGreedy turn rest fuel least most none place
    | .lazy => runLazy turn rest fuel least most none place
    | .possessive =>
      match runPossessive turn fuel least most none place with
      | some next => rest next
      | none => none
  | .atomic body, place, rest =>
    match body.run place some with
    | some next => rest next
    | none => none
  | .ahead negated body, place, rest =>
    match body.run place some, negated with
    | some next, false =>
      rest { place with opened := next.opened, closed := next.closed }
    | none, true => rest place
    | _, _ => none
  | .behind negated body, place, rest =>
    let back := body.width.least
    let found := if place.offset < back then none else body.run (place.rewind back) some
    match found, negated with
    | some next, false =>
      rest { place with opened := next.opened, closed := next.closed }
    | none, true => rest place
    | _, _ => none
  | .sameAs index _ mode, place, rest =>
    match place.groupText? index with
    | none => none
    | some expected =>
      match takeText mode expected place with
      | some next => rest next
      | none => none
  | .ifGroup index present absent, place, rest =>
    if (place.span? index).isSome then present.run place rest else absent.run place rest

/-- Whether the tree accepts a text from its beginning to its end. -/
def accepts (node : Node) (text : List Char) : Bool :=
  (node.run { after := text } fun place =>
    if place.after.isEmpty then some place else none).isSome

end Node

end ForwardedClient.Pattern
