import ForwardedClient.Text.Latin

/-!
Contract: what can go wrong with a request at hand.

Owns: `Fault`, one cause per way, and its wording.

Does not own: faults of settings and of programs behind the request.
-/

namespace ForwardedClient.Request

open ForwardedClient.Text

inductive StateUse where
  | put
  | get
  | remove
deriving DecidableEq

inductive UrlFault where
  | unknownScheme (scheme : String)
  | unbalancedBrackets
  | futureAddress
  | bracketedIpv4
  | notAddress (text : String)
  | portNotNumber (text : String)
  | portOutOfRange
deriving DecidableEq

def UrlFault.message : UrlFault → String
  | .unknownScheme scheme => quoted scheme
  | .unbalancedBrackets => "Invalid IPv6 URL"
  | .futureAddress => "IPvFuture address is invalid"
  | .bracketedIpv4 => "An IPv4 address cannot be in brackets"
  | .notAddress text => quoted text ++ " does not appear to be an IPv4 or IPv6 address"
  | .portNotNumber text => "Port could not be cast to integer value as " ++ quoted text
  | .portOutOfRange => "Port out of range 0-65535"

inductive Fault where
  | missing (entry : String)
  | notLatin (cause : EncodeError)
  | nullState (use : StateUse)
  | otherKind
  | url (cause : UrlFault)
deriving DecidableEq

/-- The wording of a fault; a request of another kind is refused without words. -/
def Fault.message : Fault → String
  | .missing entry => "'" ++ entry ++ "'"
  | .notLatin cause => cause.message
  | .nullState .put => "'NoneType' object does not support item assignment"
  | .nullState .get => "'NoneType' object has no attribute 'get'"
  | .nullState .remove => "'NoneType' object has no attribute 'pop'"
  | .otherKind => ""
  | .url cause => cause.message

end ForwardedClient.Request
