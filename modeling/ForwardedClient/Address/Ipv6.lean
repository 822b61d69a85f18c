import ForwardedClient.Text.Digit
import ForwardedClient.Text.Hex
import ForwardedClient.Text.Pieces

/-!
Contract: which texts are IP addresses.

Owns: dotted IPv4 addresses without leading zeros, and IPv6 addresses with one optional
run of skipped groups, an optional dotted tail and an optional zone.

Does not own: brackets, ports and host names.
-/

namespace ForwardedClient.Address

open ForwardedClient.Text

/-- A number from 0 to 255 in one to three ASCII digits, without leading zeros. -/
def isOctet (text : List Char) : Bool :=
  !text.isEmpty && text.all isAsciiDigit && text.length ≤ 3 &&
    (text == ['0'] || text.head? != some '0') && decimalValue text ≤ 255

def isIpv4 (text : List Char) : Bool :=
  let octets := pieces (· == '.') text
  octets.length == 4 && octets.all isOctet

/-- One group of an IPv6 address: one to four hexadecimal digits. -/
def isGroup (text : List Char) : Bool :=
  !text.isEmpty && text.length ≤ 4 && text.all isHexDigit

/-- Replaces a dotted tail by the two groups it stands for; fails if it is no IPv4 address. -/
def withoutDottedTail (groups : List (List Char)) : Option (List (List Char)) :=
  match groups.getLast? with
  | some tail =>
    if tail.contains '.' then
      if isIpv4 tail then some (groups.dropLast ++ [['0'], ['0']]) else none
    else some groups
  | none => some groups

/-- The groups on one side of the skipped run: none where the address begins or ends with
the run, else all groups as they stand. -/
def sideOfSkip (side : List (List Char)) : List (List Char) :=
  if side == [[]] then [] else side

/-- Whether groups between colons, at least three of them, form an address of eight groups;
one empty inner group stands for at least one skipped group. -/
def areGroups (groups : List (List Char)) : Bool :=
  let inner := groups.tail.dropLast
  if inner.contains [] then
    let before := sideOfSkip (groups.head?.toList ++ inner.takeWhile (· != []))
    let after :=
      sideOfSkip ((inner.dropWhile (· != [])).tail ++ groups.getLast?.toList)
    before.all isGroup && after.all isGroup && before.length + after.length < 8
  else
    groups.length == 8 && groups.all isGroup

def isIpv6Plain (text : List Char) : Bool :=
  let groups := pieces (· == ':') text
  3 ≤ groups.length &&
    match withoutDottedTail groups with
    | some groups => areGroups groups
    | none => false

/-- An IPv6 address; a zone follows a percent sign, is not empty and holds no other one. -/
def isIpv6 (text : List Char) : Bool :=
  !text.contains '/' &&
    match partitionAt (· == '%') text with
    | (address, none) => isIpv6Plain address
    | (address, some zone) => !zone.isEmpty && !zone.contains '%' && isIpv6Plain address

end ForwardedClient.Address
