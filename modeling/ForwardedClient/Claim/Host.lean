import ForwardedClient.Address.HostLiteral
import ForwardedClient.Address.Port
import ForwardedClient.Journal.Level
import ForwardedClient.Text.Blank
import ForwardedClient.Text.Quoted

/-!
Contract: the server name and port that a proxy claims.

Owns: `HostClaim` and its resolution from text; an unreadable claim gives nothing but a
remark.

Does not own: which of several claims counts.
-/

namespace ForwardedClient.Claim

open ForwardedClient.Address
open ForwardedClient.Journal
open ForwardedClient.Text

/-- A server name, with its brackets if it is an IPv6 address, and a port if one is given. -/
structure HostClaim where
  serverName : String
  port : Option Nat := none
deriving DecidableEq

namespace HostClaim

/-- Reads a claim between blanks; a withheld port is dropped. -/
def read (claim : String) : Except String HostClaim :=
  match HostLiteral.read (stripText claim) with
  | .error failure => .error failure.message
  | .ok host =>
    match host.port with
    | none => .ok ⟨host.name, none⟩
    | some port =>
      if host.hasWithheldPort then .ok ⟨host.name, none⟩
      else
        match readPort port with
        | .error failure => .error failure.message
        | .ok port => .ok ⟨host.name, some port⟩

/-- The claim, or a remark that names where it came from. -/
def resolve (claim : String) (source : String := "host") : Option HostClaim × List Report :=
  match read claim with
  | .ok host => (some host, [])
  | .error failure =>
    (none,
      [.trace ("Invalid value " ++ quoted claim ++ " found in " ++ source ++ ": " ++ failure)])

end HostClaim

end ForwardedClient.Claim
