import ForwardedClient.Proofs.Middleware.Resolution
import ForwardedClient.Proofs.Middleware.ServerClaims
import ForwardedClient.Proofs.Request.Encoding

/-!
Contract: what the claim headers of a request amount to in the dialect of separate headers.

Owns: the values of the three claim headers, the claims as a function of these values, and the run
of `separateClaims` in terms of that function.

Does not own: what is shown of the claims.
-/

namespace ForwardedClient.Middleware

open ForwardedClient.Claim
open ForwardedClient.Request
open ForwardedClient.Text

/-! ### The values of claim headers -/

/-- The values of a header; one that is not configured has none. -/
def namedValues (headers : List Header) (name : Option String) : Except Fault (List String) :=
  match name.filter (!·.isEmpty) with
  | none => .ok []
  | some name => headerValues headers name

theorem claimValue_eq (headers : List Header) (name : Option String) :
    claimValue headers name = (namedValues headers name).map List.head? := by
  unfold claimValue namedValues
  cases name.filter (!·.isEmpty) <;> rfl

theorem exists_headerValues (headers : List Header) {name : String} (latin : IsLatin name) :
    ∃ values, headerValues headers name = .ok values := by
  obtain ⟨bytes, named⟩ := exists_headerName latin
  exact ⟨Headers.values headers bytes, by rw [headerValues, named]⟩

theorem exists_namedValues (headers : List Header) {name : Option String}
    (latin : ∀ text, name = some text → IsLatin text) :
    ∃ values, namedValues headers name = .ok values := by
  unfold namedValues
  cases configured : name.filter (!·.isEmpty) with
  | none => exact ⟨[], rfl⟩
  | some text =>
      exact exists_headerValues headers (latin text (Option.filter_eq_some_iff.mp configured).1)

theorem isLatin_of_mem_headerValues {headers : List Header} {name : String}
    {values : List String} (found : headerValues headers name = .ok values) {value : String}
    (member : value ∈ values) : IsLatin value := by
  unfold headerValues at found
  cases named : headerName name with
  | error cause => simp [named] at found
  | ok bytes =>
      rw [named] at found
      rw [← Except.ok.inj found] at member
      exact Headers.isLatin_of_mem_values member

theorem isLatin_of_mem_namedValues {headers : List Header} {name : Option String}
    {values : List String} (found : namedValues headers name = .ok values) {value : String}
    (member : value ∈ values) : IsLatin value := by
  unfold namedValues at found
  cases configured : name.filter (!·.isEmpty) with
  | none =>
      rw [configured] at found
      rw [← Except.ok.inj found] at member
      exact absurd member List.not_mem_nil
  | some text =>
      rw [configured] at found
      exact isLatin_of_mem_headerValues found member

/-! ### Claims as a function of the values -/

/-- What the protocols claim, with a port that may replace the one that goes with the scheme. -/
def protocolClaimsOf (settings : Settings) (protocols : List String) (port : Option String) :
    ServerClaims :=
  if protocols.isEmpty then {}
  else ServerClaims.addProtocol {}
    ((protocolRules settings).resolve (Chain.read protocols) port).1

/-- What the values of the three headers claim: of ports and hosts only the first counts. -/
def separateClaimsOf (settings : Settings) (protocols ports hosts : List String) :
    ServerClaims :=
  match hosts.head? with
  | none => protocolClaimsOf settings protocols ports.head?
  | some claim =>
    (protocolClaimsOf settings protocols ports.head?).addHost (HostClaim.resolve claim).1

section Claims

variable {settings : Settings} {headers : List Header} {protocols ports hosts : List String}

theorem protocolClaims_run (protocolsFound : namedValues headers settings.protocolHeader =
      .ok protocols) (portsFound : namedValues headers settings.portHeader = .ok ports)
    (world : World) :
    ∃ after, (protocolClaims settings headers).run world =
      (.ok (protocolClaimsOf settings protocols ports.head?), after) := by
  unfold protocolClaims protocolClaimsOf
  unfold namedValues at protocolsFound
  cases configured : settings.protocolHeader.filter (!·.isEmpty) with
  | none =>
      rw [configured] at protocolsFound
      rw [← Except.ok.inj protocolsFound]
      exact ⟨world, rfl⟩
  | some name =>
      rw [configured] at protocolsFound
      simp only at protocolsFound
      simp only [Step.run_bind, Step.run_ofExcept, protocolsFound]
      by_cases silent : protocols.isEmpty = true
      · rw [if_pos silent, if_pos silent]
        exact ⟨world, rfl⟩
      · rw [if_neg silent, if_neg silent]
        simp only [Step.run_bind, Step.run_ofExcept, claimValue_eq, portsFound, Except.map]
        exact ⟨_, rfl⟩

/-- The claims are found whenever the names of their headers can be looked up. -/
theorem separateClaims_run (protocolsFound : namedValues headers settings.protocolHeader =
      .ok protocols) (portsFound : namedValues headers settings.portHeader = .ok ports)
    (hostsFound : namedValues headers settings.hostHeader = .ok hosts) (world : World) :
    ∃ after, (separateClaims settings headers).run world =
      (.ok (separateClaimsOf settings protocols ports hosts), after) := by
  obtain ⟨claimed, ran⟩ := protocolClaims_run protocolsFound portsFound world
  unfold separateClaims separateClaimsOf
  simp only [Step.run_bind, ran, Step.run_ofExcept, claimValue_eq, hostsFound, Except.map]
  cases hosts.head? with
  | none => exact ⟨claimed, rfl⟩
  | some claim =>
      have same := (resolve_fst claim "host").trans
        (resolve_fst claim (settings.hostHeader.getD "")).symm
      simp only [Step.run_bind, Step.run_report, same]
      exact ⟨_, rfl⟩

/-- A server name that is claimed comes from the wire. -/
theorem isLatin_serverName_separateClaimsOf (latin : ∀ host ∈ hosts, IsLatin host)
    {name : String} (claimed : (separateClaimsOf settings protocols ports hosts).serverName =
      some name) : IsLatin name := by
  have unnamed : (protocolClaimsOf settings protocols ports.head?).serverName = none := by
    unfold protocolClaimsOf
    split <;> rfl
  unfold separateClaimsOf at claimed
  cases first : hosts.head? with
  | none =>
      rw [first] at claimed
      exact nomatch unnamed.symm.trans claimed
  | some claim =>
      simp only [first, resolve_fst] at claimed
      cases accepted : HostClaim.read claim with
      | error failure =>
          simp only [accepted, Except.toOption, ServerClaims.addHost] at claimed
          exact nomatch unnamed.symm.trans claimed
      | ok host =>
          simp only [accepted, Except.toOption, ServerClaims.addHost] at claimed
          have same : host.serverName = name := Option.some.inj claimed
          rw [← same]
          exact (ServerClaims.IsSound.host_of_read
            (latin claim (List.mem_of_head? first)) accepted).1.2

end Claims

end ForwardedClient.Middleware
