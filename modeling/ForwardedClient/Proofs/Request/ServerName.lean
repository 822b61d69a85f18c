import ForwardedClient.Proofs.Address.HostLiteral
import ForwardedClient.Proofs.Request.Header
import ForwardedClient.Proofs.Request.View

/-!
Contract: the scheme, server name and port that an application sees under a forwarded view.

Owns: the round trip of a server name and port through the host header, and what is seen of a
request that was entered, in terms of the overrides and of what was seen before.

Does not own: where the overrides come from.
-/

namespace ForwardedClient.Request

open ForwardedClient.Address
open ForwardedClient.Text

/-! ### The host header -/

section HostText

variable {name : String} {port : Option Nat}

theorem hostText_eq (secure : Bool) (name : String) (port : Option Nat) :
    hostText secure name (port.map Int.ofNat) =
      formatHost name
        ((port.filter fun number => Int.ofNat number != defaultPort secure).map Int.ofNat) := by
  unfold hostText
  congr 1
  cases port with
  | none => rfl
  | some number => simp only [Option.map_some, Option.filter]; split <;> rfl

theorem hostText_ne_empty (isName : IsLiteralName name) (secure : Bool) (port : Option Nat) :
    hostText secure name (port.map Int.ofNat) ≠ "" :=
  formatHost_ne_empty isName.ne_empty _

theorem not_hasWithheldPort (name : String) (port : Nat) :
    (⟨name, some (toString port)⟩ : HostLiteral).hasWithheldPort = false := by
  have spelled : (toString port).toList = Nat.toDigits 10 port := by
    rw [Nat.toString_eq_repr, Nat.toList_repr]
  simp only [HostLiteral.hasWithheldPort, Option.any_some, spelled, beq_eq_false_iff_ne]
  intro head
  have digit := isAsciiDigit_of_mem_toDigits (List.mem_of_head? head)
  exact absurd digit (by decide)

/-- A name and port that are written into a host header are what is read from it; without a
port the default one is. -/
theorem hostNameAndPort_hostText (secure : Bool) (isName : IsLiteralName name)
    (bounded : ∀ number, port = some number → number ≤ maxPort) :
    hostNameAndPort secure (hostText secure name (port.map Int.ofNat)) =
      (name, (port.map Int.ofNat).getD (defaultPort secure)) := by
  have within : ∀ number,
      (port.filter fun number => Int.ofNat number != defaultPort secure) = some number →
        number ≤ maxPort := by
    intro number kept
    exact bounded number (Option.filter_eq_some_iff.mp kept).1
  have readBack := read_formatHost isName _ within
  rw [← hostText_eq] at readBack
  unfold hostNameAndPort
  rw [readBack]
  cases port with
  | none => rfl
  | some number =>
      by_cases usual : Int.ofNat number = defaultPort secure
      · have silent : (Int.ofNat number != defaultPort secure) = false := by simpa using usual
        simp only [Option.filter, silent, Bool.false_eq_true, if_false, Option.map_none,
          Option.map_some, Option.getD_some]
        exact congrArg (Prod.mk name) usual.symm
      · have written : (Int.ofNat number != defaultPort secure) = true := by simpa using usual
        simp only [Option.filter, written, if_true, Option.map_some, not_hasWithheldPort,
          Bool.not_false, readPort_toString (bounded number rfl), Option.getD_some]
        rfl

end HostText

/-! ### Scheme, server name and port -/

theorem isSecureScheme_schemeFor (request : Request) (secure : Bool) :
    isSecureScheme (request.schemeFor secure) = secure := by
  unfold schemeFor
  cases secure <;> by_cases socket : request.kind = some "websocket" <;> simp [socket] <;> decide

section WriteHost

variable {headers written : List Header} {host : Option String}

/-- Nothing is written, or the bytes of a host header. -/
theorem Headers.cases_of_writeHost (hosted : Headers.writeHost headers host = .ok written) :
    host = none ∧ written = headers ∨
      ∃ bytes : LatinText, host = some bytes.text ∧
        written = Headers.set headers hostHeader bytes := by
  cases host with
  | none =>
      injection hosted with same
      exact Or.inl ⟨rfl, same.symm⟩
  | some host =>
      cases encoded : LatinText.encode host with
      | error cause => simp [Headers.writeHost, encoded, Except.map] at hosted
      | ok bytes =>
          simp only [Headers.writeHost, encoded, Except.map] at hosted
          injection hosted with same
          exact Or.inr ⟨bytes, congrArg some (LatinText.text_of_encode encoded).symm, same.symm⟩

/-- The host headers of a header list after one was written, or not. -/
theorem values_writeHost (hosted : Headers.writeHost headers host = .ok written) :
    Headers.values written hostHeader =
      (host.map fun text => [text]).getD (Headers.values headers hostHeader) := by
  obtain ⟨silent, same⟩ | ⟨bytes, spoken, same⟩ := Headers.cases_of_writeHost hosted
  · rw [same, silent]
    rfl
  · rw [same, spoken, Headers.values_set]
    rfl

/-- Writing a host header leaves the headers of other names alone, where they stand. -/
theorem Headers.filter_writeHost (keep : LatinText → Bool) (dropped : keep hostHeader = false)
    (hosted : Headers.writeHost headers host = .ok written) :
    written.filter (keep ·.name) = headers.filter (keep ·.name) := by
  obtain ⟨-, same⟩ | ⟨bytes, -, same⟩ := Headers.cases_of_writeHost hosted
  · rw [same]
  · rw [same, Headers.filter_set keep dropped]

theorem Headers.values_writeHost_of_ne {name : LatinText} (differ : hostHeader ≠ name)
    (hosted : Headers.writeHost headers host = .ok written) :
    Headers.values written name = Headers.values headers name :=
  congrArg (List.map _) (Headers.filter_writeHost (· = name) (decide_eq_false differ) hosted)

theorem first?_writeHost (hosted : Headers.writeHost headers host = .ok written) :
    Headers.first? written hostHeader =
      host.orElse fun _ => Headers.first? headers hostHeader := by
  rw [Headers.first?_eq, values_writeHost hosted, Headers.first?_eq]
  cases host <;> rfl

end WriteHost

/-- The server name and port that go with the text of a host header, if there is one, and a local
endpoint. -/
def serverFrom (secure : Bool) (host : Option String) (server : Slot Endpoint) :
    Option String × Option Int :=
  match host.filter (!·.isEmpty) with
  | some host => (some (hostNameAndPort secure host).1, some (hostNameAndPort secure host).2)
  | none => (server.get?.map (·.host), server.get?.bind (·.port))

theorem nameAndPort_eq (secure : Bool) (headers : List Header) (server : Slot Endpoint) :
    nameAndPort secure headers server =
      serverFrom secure (Headers.first? headers hostHeader) server := by
  unfold nameAndPort serverFrom
  cases (Headers.first? headers hostHeader).filter (!·.isEmpty) with
  | some host => rfl
  | none => cases server <;> rfl

theorem Overrides.hostHeader?_of_name {overrides : Overrides} {name : String}
    (named : overrides.serverName = some name) (secure : Bool)
    (original : Option String × Option Int) :
    overrides.hostHeader? secure original =
      some (hostText (overrides.secure.getD secure) name
        (overrides.serverPort.orElse fun _ => original.2)) := by
  simp [hostHeader?, named]

theorem Overrides.hostHeader?_of_silent {overrides : Overrides}
    (unnamed : overrides.serverName = none) (unported : overrides.serverPort = none)
    (secure : Bool) (original : Option String × Option Int) :
    overrides.hostHeader? secure original = none := by
  simp [hostHeader?, unnamed, unported]

namespace ForwardedView

/-- A secure override decides which security is seen. -/
theorem isSecure_enteredRequest (view : ForwardedView) (overrides : Overrides) (request : Request)
    (written : List Header) :
    (view.enteredRequest overrides request written).isSecure =
      overrides.secure.getD request.isSecure := by
  unfold enteredRequest isSecure schemeName withScheme
  cases overrides.secure with
  | none => rfl
  | some secure => exact isSecureScheme_schemeFor request secure

/-- What is seen of the server under a view that was entered with overrides that assign no host
header: the host header that they call for, or else the one that was there. -/
theorem serverNameAndPort_enteredRequest {view : ForwardedView} {overrides : Overrides}
    {request : Request} {headers written : List Header}
    (accepts : view.Accepts overrides request headers written)
    (unmanaged : ∀ update ∈ overrides.headers, headerName update.1 ≠ .ok hostHeader) :
    (view.enteredRequest overrides request written).serverNameAndPort =
      .ok (serverFrom (overrides.secure.getD request.isSecure)
        ((overrides.hostHeader? request.isSecure
            (nameAndPort request.isSecure headers request.server)).orElse
          fun _ => Headers.first? headers hostHeader)
        (view.localEnd overrides request.server)) := by
  obtain ⟨changed, assigned, hosted⟩ := accepts.assigned
  have listed : (view.enteredRequest overrides request written).headers = some written := rfl
  have shown : Headers.first? written hostHeader =
      (overrides.hostHeader? request.isSecure
        (nameAndPort request.isSecure headers request.server)).orElse
          fun _ => Headers.first? headers hostHeader := by
    rw [first?_writeHost hosted, Headers.first?_assignAll unmanaged assigned]
  rw [serverNameAndPort, headerList, listed, Except.map, nameAndPort_eq, shown,
    isSecure_enteredRequest]
  rfl

/-- A host header that the overrides call for is what is seen, whatever else they assign, because it
is written last. -/
theorem serverNameAndPort_of_called {view : ForwardedView} {overrides : Overrides}
    {request : Request} {headers written : List Header}
    (accepts : view.Accepts overrides request headers written) {host : String}
    (called : overrides.hostHeader? request.isSecure
      (nameAndPort request.isSecure headers request.server) = some host) (filled : host ≠ "") :
    (view.enteredRequest overrides request written).serverNameAndPort =
      .ok (some (hostNameAndPort (overrides.secure.getD request.isSecure) host).1,
        some (hostNameAndPort (overrides.secure.getD request.isSecure) host).2) := by
  obtain ⟨changed, -, hosted⟩ := accepts.assigned
  have listed : (view.enteredRequest overrides request written).headers = some written := rfl
  have shown := first?_writeHost hosted
  rw [called] at shown
  rw [serverNameAndPort, headerList, listed, Except.map, nameAndPort_eq, shown,
    isSecure_enteredRequest]
  simp only [serverFrom, Option.orElse_some, Option.filter, String.isEmpty_eq_false_iff.mpr filled,
    Bool.not_false, if_true]

/-- A name that is claimed is what is seen, with the port that is claimed, or else the port that was
there before, or else the default one. -/
theorem serverNameAndPort_of_named {view : ForwardedView} {overrides : Overrides}
    {request : Request} {headers written : List Header}
    (accepts : view.Accepts overrides request headers written) {name : String}
    (named : overrides.serverName = some name) (isName : IsLiteralName name) (port : Option Nat)
    (counted : (overrides.serverPort.orElse fun _ =>
      (nameAndPort request.isSecure headers request.server).2) = port.map Int.ofNat)
    (bounded : ∀ number, port = some number → number ≤ maxPort) :
    (view.enteredRequest overrides request written).serverNameAndPort =
      .ok (some name, some ((port.map Int.ofNat).getD
        (defaultPort (overrides.secure.getD request.isSecure)))) := by
  have called : overrides.hostHeader? request.isSecure
      (nameAndPort request.isSecure headers request.server) =
        some (hostText (overrides.secure.getD request.isSecure) name (port.map Int.ofNat)) := by
    rw [Overrides.hostHeader?_of_name named, counted]
  rw [serverNameAndPort_of_called accepts called (hostText_ne_empty isName _ port),
    hostNameAndPort_hostText _ isName bounded]

/-- A name and port that are claimed are what is seen. -/
theorem serverNameAndPort_of_claimed {view : ForwardedView} {overrides : Overrides}
    {request : Request} {headers written : List Header}
    (accepts : view.Accepts overrides request headers written) {name : String} {port : Nat}
    (named : overrides.serverName = some name) (isName : IsLiteralName name)
    (priced : overrides.serverPort = some (Int.ofNat port)) (bounded : port ≤ maxPort) :
    (view.enteredRequest overrides request written).serverNameAndPort =
      .ok (some name, some (Int.ofNat port)) :=
  serverNameAndPort_of_named accepts named isName (some port) (by rw [priced]; rfl)
    fun _ same => Option.some.inj same ▸ bounded

end ForwardedView

end ForwardedClient.Request
