import ForwardedClient.Address.Port
import ForwardedClient.Journal.Level
import ForwardedClient.Text.Case
import ForwardedClient.Text.Quoted

/-!
Contract: the scheme and port that proxies claim.

Owns: the rule that a request is secure only if every hop says so, the default port of
either scheme, and the explicit port claim that may replace it.

Does not own: how a scheme is spelled for web sockets.
-/

namespace ForwardedClient.Claim

open ForwardedClient.Address
open ForwardedClient.Journal
open ForwardedClient.Text

/-- What claims are compared with and which ports they imply. -/
structure ProtocolRules where
  secureValue : String := "https"
  plainPort : Int := 80
  securePort : Int := 443
deriving DecidableEq

/-- The scheme and port that follow from the claims. -/
structure ProtocolClaim where
  secure : Bool
  port : Int
deriving DecidableEq

def ProtocolClaim.scheme (claim : ProtocolClaim) : String :=
  if claim.secure then "https" else "http"

namespace ProtocolRules

/-- Whether there are claims and all of them name the secure value, ignoring case. -/
def isSecure (rules : ProtocolRules) (protocols : List String) : Bool :=
  !protocols.isEmpty &&
    protocols.all fun protocol => lower protocol == lower rules.secureValue

/-- The scheme that the claims give and its port; a readable port claim replaces the port,
an unreadable one is remarked on. -/
def resolve (rules : ProtocolRules) (protocols : List String)
    (portClaim : Option String := none) : ProtocolClaim × List Report :=
  let secure := rules.isSecure protocols
  let implied := if secure then rules.securePort else rules.plainPort
  match portClaim with
  | none => (⟨secure, implied⟩, [])
  | some claim =>
    match readPort claim with
    | .ok port => (⟨secure, port⟩, [])
    | .error failure =>
      (⟨secure, implied⟩,
        [.trace ("Ignoring port claim " ++ quoted claim ++ ": " ++ failure.message)])

end ProtocolRules

end ForwardedClient.Claim
