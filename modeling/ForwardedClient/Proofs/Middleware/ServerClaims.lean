import ForwardedClient.Middleware.Resolution
import ForwardedClient.Proofs.Forwarded.Latin
import ForwardedClient.Proofs.Request.ServerName
import ForwardedClient.Proofs.Text.Blank

/-!
Contract: what claims of a standard header can be.

Owns: the properties that all claims of a header have which came over the wire: the name is one
that a host literal can have, the port is a port number, and without a name the port is the one
that goes with the scheme.

Does not own: what is shown of the claims.
-/

namespace ForwardedClient.Middleware

open ForwardedClient.Address
open ForwardedClient.Claim
open ForwardedClient.Forwarded
open ForwardedClient.Request
open ForwardedClient.Text

/-- The port that goes with a scheme. -/
def impliedPort (settings : Settings) (secure : Bool) : Nat :=
  if secure then settings.securePort.val else settings.plainPort.val

theorem impliedPort_le (settings : Settings) (secure : Bool) :
    impliedPort settings secure ≤ maxPort := by
  unfold impliedPort
  split
  · exact Nat.lt_succ_iff.mp settings.securePort.isLt
  · exact Nat.lt_succ_iff.mp settings.plainPort.isLt

/-- Claims as a standard header can make them. -/
structure ServerClaims.IsSound (settings : Settings) (claims : ServerClaims) : Prop where
  name : ∀ name, claims.serverName = some name → IsLiteralName name ∧ IsLatin name
  port : ∀ port, claims.serverPort = some port → ∃ number, number ≤ maxPort ∧
    port = Int.ofNat number
  implied : claims.serverName = none →
    claims.serverPort = claims.secure.map fun secure => Int.ofNat (impliedPort settings secure)
  priced : claims.secure.isSome = true → claims.serverPort.isSome = true

namespace ServerClaims.IsSound

variable {settings : Settings} {claims : ServerClaims}

theorem empty : IsSound settings {} where
  name := by simp
  port := by simp
  implied := fun _ => rfl
  priced := by simp

theorem addProtocol (secure : Bool) :
    IsSound settings
      (ServerClaims.addProtocol {} ⟨secure, Int.ofNat (impliedPort settings secure)⟩) where
  name := by simp [ServerClaims.addProtocol]
  port := by
    intro port isPort
    exact ⟨impliedPort settings secure, impliedPort_le settings secure,
      (Option.some.inj isPort).symm⟩
  implied := fun _ => rfl
  priced := fun _ => rfl

/-- A host claim that is read has a sound name and port. -/
theorem host_of_read {claim : String} {host : HostClaim} (latin : IsLatin claim)
    (accepted : HostClaim.read claim = .ok host) :
    (IsLiteralName host.serverName ∧ IsLatin host.serverName) ∧
      ∀ port, host.port = some port → port ≤ maxPort := by
  unfold HostClaim.read at accepted
  cases parsed : HostLiteral.read (stripText claim) with
  | error failure => simp [parsed] at accepted
  | ok literal =>
      have isName := HostLiteral.isLiteralName_of_read parsed
      have nameLatin : IsLatin literal.name := fun char member =>
        latin char (mem_of_mem_stripText ((HostLiteral.mem_of_read parsed).1 member))
      simp only [parsed] at accepted
      cases isPort : literal.port with
      | none =>
          simp only [isPort, Except.ok.injEq] at accepted
          subst accepted
          exact ⟨⟨isName, nameLatin⟩, by simp⟩
      | some text =>
          simp only [isPort] at accepted
          split at accepted
          · simp only [Except.ok.injEq] at accepted
            subst accepted
            exact ⟨⟨isName, nameLatin⟩, by simp⟩
          · cases number : readPort text with
            | error failure => simp [number] at accepted
            | ok port =>
                simp only [number, Except.ok.injEq] at accepted
                subst accepted
                refine ⟨⟨isName, nameLatin⟩, ?_⟩
                intro other same
                rw [← Option.some.inj same]
                exact readPort_le number

theorem addHost {claim source : String} (sound : IsSound settings claims)
    (latin : IsLatin claim) :
    IsSound settings (claims.addHost (HostClaim.resolve claim source).1) := by
  unfold HostClaim.resolve
  cases accepted : HostClaim.read claim with
  | error failure => exact sound
  | ok host =>
      obtain ⟨isName, bounded⟩ := host_of_read latin accepted
      refine ⟨?name, ?port, ?implied, ?priced⟩
      case name =>
        intro name same
        rw [← Option.some.inj same]
        exact isName
      case port =>
        intro port same
        simp only [ServerClaims.addHost] at same
        cases own : host.port with
        | none => exact sound.port port (by simpa [own] using same)
        | some number =>
            refine ⟨number, bounded number own, ?_⟩
            simpa [own] using same.symm
      case implied => simp [ServerClaims.addHost]
      case priced =>
        intro claimed
        simp only [ServerClaims.addHost]
        cases host.port with
        | none => exact sound.priced claimed
        | some number => rfl

/-- The claimed port, if there is one, as a port number. -/
theorem exists_port (sound : IsSound settings claims) :
    ∃ port : Option Nat, claims.serverPort = port.map Int.ofNat ∧
      ∀ number, port = some number → number ≤ maxPort := by
  cases claimed : claims.serverPort with
  | none => exact ⟨none, rfl, by simp⟩
  | some port =>
      obtain ⟨number, bounded, same⟩ := sound.port port claimed
      refine ⟨some number, congrArg some same, ?_⟩
      intro other equal
      rw [← Option.some.inj equal]
      exact bounded

end ServerClaims.IsSound

/-! ### The claims of a standard header -/

/-- What the protocols of a header claim, all of them together. -/
def claimsOfProtocols (settings : Settings) (protocols : List String) : ServerClaims :=
  if protocols.isEmpty then {}
  else
    let secure := (protocolRules settings).isSecure protocols
    ServerClaims.addProtocol {} ⟨secure, Int.ofNat (impliedPort settings secure)⟩

/-- What the protocols and the hosts of a header claim: of the hosts only the first counts. -/
def claimsOfValues (settings : Settings) (protocols hosts : List String) : ServerClaims :=
  match hosts.head? with
  | none => claimsOfProtocols settings protocols
  | some claim => (claimsOfProtocols settings protocols).addHost (HostClaim.resolve claim).1

theorem resolve_eq (settings : Settings) (protocols : List String) :
    (protocolRules settings).resolve protocols =
      (⟨(protocolRules settings).isSecure protocols,
        Int.ofNat (impliedPort settings ((protocolRules settings).isSecure protocols))⟩, []) := by
  unfold ProtocolRules.resolve impliedPort
  cases (protocolRules settings).isSecure protocols <;> rfl

/-- A claim resolves to what is read of it; where it came from matters for the remarks only. -/
theorem resolve_fst (claim source : String) :
    (HostClaim.resolve claim source).1 = (HostClaim.read claim).toOption := by
  unfold HostClaim.resolve
  cases HostClaim.read claim <;> rfl

theorem standardClaims_eq (settings : Settings) (map : DirectiveMap) :
    (standardClaims settings map).1 =
      claimsOfValues settings (map.values "proto") (map.values "host") := by
  have resolved : ∀ claim source,
      (HostClaim.resolve claim source).1 = (HostClaim.resolve claim).1 := by
    intro claim source
    rw [resolve_fst, resolve_fst]
  unfold standardClaims claimsOfValues claimsOfProtocols
  simp only [resolve_eq]
  cases map.values "proto" <;> cases (map.values "host").head? with
  | none => rfl
  | some claim => simp only [resolved claim (Settings.standardHeader ++ " host")]; rfl

/-- The claims of a header that came over the wire are sound. -/
theorem isSound_standardClaims (settings : Settings) {map : DirectiveMap} (wire : map.IsWire) :
    (standardClaims settings map).1.IsSound settings := by
  have protocols : (claimsOfProtocols settings (map.values "proto")).IsSound settings := by
    unfold claimsOfProtocols
    split
    · exact .empty
    · exact .addProtocol _
  rw [standardClaims_eq, claimsOfValues]
  cases first : (map.values "host").head? with
  | none => exact protocols
  | some claim =>
      exact protocols.addHost
        (DirectiveMap.isLatin_of_mem_values wire (List.mem_of_head? first))

end ForwardedClient.Middleware
