import ForwardedClient.Trust.Rules

/-!
Contract: the walk along a chain of addresses, from the nearest hop to the oldest claim.

Owns: `Walk`, its outcome, and `walk`, which skips internal proxies, collects trusted ones
and stops at the first address that is neither.

Does not own: where the chain comes from. What stands left of the stop may have been
written by anybody and is only kept as it is.
-/

namespace ForwardedClient.Trust

/-- The outcome of a walk: the client address if some address is no proxy, the proxies
crossed in chain order with the peer last, the entries that were not reached, and how many
of the proxies stood in the chain. -/
structure Walk where
  client : Option String
  proxies : List String := []
  remaining : List String := []
  chainProxies : Nat := 0
deriving DecidableEq

namespace Walk

def isResolved (walk : Walk) : Bool := walk.client.isSome

end Walk

/-- Walks entries given nearest hop first; `crossed` are the proxies met so far, nearest
last. -/
def walkFrom (rules : Rules) (crossed : List String) :
    List String → Option String × List String × List String
  | [] => (none, crossed, [])
  | entry :: older =>
    if rules.isInternal entry then walkFrom rules crossed older
    else if rules.isTrusted entry then walkFrom rules (entry :: crossed) older
    else (some entry, crossed, older.reverse)

/-- Walks a chain that arrived from a peer. The peer counts as the last proxy unless it is
internal. -/
def walk (rules : Rules) (chain : List String) (peer : String) : Walk :=
  let (client, crossed, remaining) := walkFrom rules [] chain.reverse
  { client
    proxies := if rules.isInternal peer then crossed else crossed ++ [peer]
    remaining
    chainProxies := crossed.length }

end ForwardedClient.Trust
