import ForwardedClient.Pattern.Matcher
import ForwardedClient.Pattern.Reader

/-!
Contract: which addresses belong to known infrastructure.

Owns: `AddressPattern`, a text with the tree it was read into, and `Trust.Rules`, the pair of
patterns for internal proxies and for trusted ones.

Does not own: the walk along a chain of addresses, and how much room there is for parentheses
inside each other.
-/

namespace ForwardedClient.Trust

open ForwardedClient.Pattern

/-- A pattern that is compared with whole addresses. -/
structure AddressPattern where
  text : String
  node : Node
deriving DecidableEq

namespace AddressPattern

def read (text : String) (room : Nat := stackRoom) : Except PatternError AddressPattern :=
  (Node.readWithin room text).map fun node => ⟨text, node⟩

/-- An empty or missing text gives no pattern. -/
def readOptional (text : Option String) (room : Nat := stackRoom) :
    Except (String × PatternError) (Option AddressPattern) :=
  match text with
  | none => .ok none
  | some text =>
    if text.isEmpty then .ok none
    else
      match read text room with
      | .ok pattern => .ok (some pattern)
      | .error failure => .error (text, failure)

theorem readOptional_of_reads {text : String} {room : Nat} {node : Node}
    (filled : ¬ text.isEmpty = true) (reads : Node.readWithin room text = .ok node) :
    readOptional (some text) room = .ok (some ⟨text, node⟩) := by
  simp only [readOptional, read, reads, if_neg filled]
  rfl

def accepts (pattern : AddressPattern) (address : String) : Bool :=
  pattern.node.accepts address.toList

end AddressPattern

/-- The patterns for internal and for trusted proxies; a missing one accepts nothing. -/
structure Rules where
  internal : Option AddressPattern := none
  trusted : Option AddressPattern := none
deriving DecidableEq

namespace Rules

def read (internal trusted : Option String) (room : Nat := stackRoom) :
    Except (String × PatternError) Rules := do
  let internal ← AddressPattern.readOptional internal room
  let trusted ← AddressPattern.readOptional trusted room
  return ⟨internal, trusted⟩

def isInternal (rules : Rules) (address : String) : Bool :=
  rules.internal.any (·.accepts address)

def isTrusted (rules : Rules) (address : String) : Bool :=
  rules.trusted.any (·.accepts address)

/-- Whether an address is that of any known proxy. -/
def isProxy (rules : Rules) (address : String) : Bool :=
  rules.isInternal address || rules.isTrusted address

end Rules

/-- The internal proxies unless configured: the private, link-local and loopback blocks of
IPv4 and the loopback address of IPv6. -/
def defaultInternal : String :=
  String.intercalate "|"
    ["10\\.\\d\x7b1,3\x7d\\.\\d\x7b1,3\x7d\\.\\d\x7b1,3\x7d",
      "192\\.168\\.\\d\x7b1,3\x7d\\.\\d\x7b1,3\x7d",
      "169\\.254\\.\\d\x7b1,3\x7d\\.\\d\x7b1,3\x7d",
      "127\\.\\d\x7b1,3\x7d\\.\\d\x7b1,3\x7d\\.\\d\x7b1,3\x7d",
      "172\\.1[6-9]\\.\\d\x7b1,3\x7d\\.\\d\x7b1,3\x7d",
      "172\\.2[0-9]\\.\\d\x7b1,3\x7d\\.\\d\x7b1,3\x7d",
      "172\\.3[0-1]\\.\\d\x7b1,3\x7d\\.\\d\x7b1,3\x7d",
      "0:0:0:0:0:0:0:1",
      "::1"]

end ForwardedClient.Trust
