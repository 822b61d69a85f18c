import ForwardedClient.Proofs.Request.Encoding
import ForwardedClient.Proofs.Request.ServerName

/-!
Contract: the server name and port that are read back under overrides of the one or the other.

Owns: the host header that is written for a name, with the port that comes with it or was there
before, and for a port, with the name that was there before.

Does not own: overrides of neither, which leave the host header to the other updates.
-/

namespace ForwardedClient.Request

open ForwardedClient.Address
open ForwardedClient.Text

theorem serverNameAndPort_of_headers {request : Request} {headers : List Header}
    (listed : request.headers = some headers) :
    request.serverNameAndPort = .ok (nameAndPort request.isSecure headers request.server) := by
  rw [serverNameAndPort, headerList, listed]
  rfl

theorem Overrides.hostHeader?_of_port {overrides : Overrides} {port : Int}
    (unnamed : overrides.serverName = none) (priced : overrides.serverPort = some port)
    (secure : Bool) {original : Option String × Option Int} {name : String}
    (known : original.1 = some name) :
    overrides.hostHeader? secure original =
      some (hostText (overrides.secure.getD secure) name (some port)) := by
  simp [hostHeader?, unnamed, priced, known]

namespace ForwardedView

variable {view : ForwardedView} {overrides : Overrides} {request : Request}
  {headers written : List Header}

/-! ### Overrides of the name -/

/-- A host header is a literal unless it has a port that does not fit into one. -/
theorem exists_read_hostText_iff {name : String} (isName : IsLiteralName name) (secure : Bool)
    (port : Option Int) :
    (∃ literal, HostLiteral.read (hostText secure name port) = .ok literal) ↔
      ∀ number, port = some number →
        number = defaultPort secure ∨ 0 ≤ number ∧ number < 100000 := by
  rw [hostText, exists_read_formatHost_iff isName]
  refine forall_congr' fun number => ?_
  rw [Option.filter_eq_some_iff, and_imp, bne_iff_ne]
  exact imp_congr_right fun _ => Decidable.or_iff_not_imp_left.symm

/-- The name of an override is what is read back, with the port that is claimed or was there before.
The host header stands there once and is a literal, whatever was there and whatever else is
assigned, unless that port does not fit into a literal. -/
theorem named_server_is_read_back {text : String} {literal : HostLiteral}
    (parsed : HostLiteral.read text = .ok literal)
    (named : overrides.serverName = some literal.name)
    (entered : (view.enter overrides request).fault = none) :
    let after := (view.enter overrides request).request
    ∃ before written host, request.serverNameAndPort = .ok before ∧
      after.headers = some written ∧ Headers.values written hostHeader = [host] ∧
      let port := overrides.serverPort.orElse fun _ => before.2
      ((∃ again, HostLiteral.read host = .ok again) ↔ ∀ number, port = some number →
        number = defaultPort after.isSecure ∨ 0 ≤ number ∧ number < 100000) ∧
      (port = none →
        after.serverNameAndPort = .ok (some literal.name, some (defaultPort after.isSecure))) ∧
      ∀ number, port = some number → 0 ≤ number → number ≤ 65535 →
        after.serverNameAndPort = .ok (some literal.name, some number) := by
  intro after
  obtain ⟨headers, written, accepts⟩ := accepts_of_enter entered
  obtain ⟨snapshot, -, put⟩ := enter_of_accepts accepts
  have isName := HostLiteral.isLiteralName_of_read parsed
  have shown : after = view.enteredRequest overrides request written :=
    congrArg Entered.request put
  obtain ⟨changed, -, hosted⟩ := accepts.assigned
  have single := values_writeHost hosted
  rw [Overrides.hostHeader?_of_name named] at single
  refine ⟨_, written, _, serverNameAndPort_of_headers accepts.listed, by rw [shown]; rfl, single,
    ?accepted, ?silent, ?counted⟩
  case accepted =>
    rw [shown, isSecure_enteredRequest]
    exact exists_read_hostText_iff isName _ _
  case silent =>
    intro unknown
    rw [shown, isSecure_enteredRequest]
    exact serverNameAndPort_of_named accepts named isName none unknown (by simp)
  case counted =>
    intro number known least greatest
    have natural : Int.ofNat number.toNat = number := Int.toNat_of_nonneg least
    rw [shown, serverNameAndPort_of_named accepts named isName (some number.toNat)
      (by rw [known, ← natural]; rfl) (by simp [maxPort]; omega)]
    rw [Option.map_some, Option.getD_some, natural]

/-- A request that names its host twice. -/
def doubledRequest : Request :=
  { kind := some "http"
    headers := some
      [⟨hostHeader, onWire "localhost:8080"⟩, ⟨hostHeader, onWire "forged.example"⟩] }

/-- Overrides of the security and the server name, with a host header among their updates. -/
def renamingOverrides : Overrides :=
  { secure := some true
    serverName := some "[2001:db8::1]"
    headers := [("Host", some "spoofed.example"), ("X-Origin", some "edge")] }

/-- The update of the host header does not count, and the port is that of the first host header. -/
theorem named_server_wins_over_host_update :
    let entered := ForwardedView.enter { names := [] } renamingOverrides doubledRequest
    entered.fault = none ∧
      ∃ written host, entered.request.headers = some written ∧
        Headers.values written hostHeader = [host] ∧
        (∃ again, HostLiteral.read host = .ok again) ∧
        entered.request.serverNameAndPort = .ok (some "[2001:db8::1]", some 8080) := by
  intro entered
  have isEntered : entered.fault = none := by decide +kernel
  obtain ⟨before, written, host, seen, listed, single, accepted, -, counted⟩ :=
    @named_server_is_read_back { names := [] } renamingOverrides doubledRequest
      "[2001:db8::1]:443" ⟨"[2001:db8::1]", some "443"⟩ (by rfl) rfl isEntered
  have port : before.2 = some 8080 := by
    have same : doubledRequest.serverNameAndPort = .ok (some "localhost", some 8080) := by
      rfl
    rw [Except.ok.inj (seen.symm.trans same)]
  refine ⟨isEntered, written, host, listed, single, accepted.mpr fun number same => ?_,
    counted 8080 port (by decide) (by decide)⟩
  rw [← Option.some.inj (port.symm.trans same)]
  exact Or.inr (by decide)

/-- A request at a local endpoint whose port is beyond what a host header can show. -/
def farRequest : Request :=
  { kind := some "http"
    scheme := some "http"
    headers := some []
    client := .value ⟨"10.0.0.1", some 4000⟩
    server := .value ⟨"10.0.0.5", some 123456⟩ }

/-- Such a port is written nonetheless, and what is written is no literal. -/
theorem named_server_beside_far_port :
    let overrides : Overrides := { serverName := some "example.com" }
    let entered := ForwardedView.enter { names := [] } overrides farRequest
    HostLiteral.read "example.com" = .ok ⟨"example.com", none⟩ ∧
      overrides.serverPort = none ∧ entered.fault = none ∧
      ∃ written, entered.request.headers = some written ∧
        Headers.values written hostHeader = ["example.com:123456"] ∧
        ∀ literal, HostLiteral.read "example.com:123456" ≠ .ok literal := by
  intro overrides entered
  have refused : HostLiteral.read "example.com:123456" =
      .error (.invalidPort "example.com:123456") := by rfl
  have written : entered.request.headers =
      some [⟨hostHeader, onWire "example.com:123456"⟩] := by decide +kernel
  refine ⟨by rfl, rfl, by decide +kernel, _, written, by decide +kernel, fun literal parsed => ?_⟩
  rw [refused] at parsed
  exact nomatch parsed

/-! ### Overrides of the port -/

theorem nameAndPort_of_first {secure : Bool} {server : Slot Endpoint} {text : String}
    (first : Headers.first? headers hostHeader = some text) (filled : text ≠ "") :
    nameAndPort secure headers server =
      (some (hostNameAndPort secure text).1, some (hostNameAndPort secure text).2) := by
  rw [nameAndPort_eq, serverFrom, first, Option.filter_some, String.isEmpty_eq_false_iff.mpr filled]
  rfl

theorem hostNameAndPort_of_error {text : String} {cause : HostError}
    (rejected : HostLiteral.read text = .error cause) (secure : Bool) :
    hostNameAndPort secure text = (text, defaultPort secure) := by
  simp only [hostNameAndPort, rejected]

theorem hostNameAndPort_fst_of_ok {text : String} {literal : HostLiteral}
    (parsed : HostLiteral.read text = .ok literal) (secure : Bool) :
    (hostNameAndPort secure text).1 = literal.name := by
  simp only [hostNameAndPort, parsed]
  split <;> rfl

/-- A text stands alone in a host header if it has no port and needs no brackets. -/
theorem formatHost_eq_self_iff {text : String} {port : Option Int} :
    formatHost text port = text ↔
      port = none ∧ (':' ∈ text.toList → text.toList.head? = some '[') := by
  have unopened : (text.toList.contains ':' && text.toList.head? != some '[') = true ↔
      ¬ (':' ∈ text.toList → text.toList.head? = some '[') := by
    simp
  unfold formatHost
  by_cases bare : (text.toList.contains ':' && text.toList.head? != some '[') = true
  · -- The brackets make the text longer.
    refine iff_of_false (fun same => ?_) fun alone => unopened.mp bare alone.2
    have size := congrArg (fun shown => shown.toList.length) same
    rw [if_pos bare] at size
    cases port <;> simp [String.toList_append] at size <;> omega
  · rw [if_neg bare]
    have opened := Classical.not_not.mp (mt unopened.mpr bare)
    cases port with
    | none => exact iff_of_true rfl ⟨rfl, opened⟩
    | some number =>
        refine iff_of_false (fun same => ?_) fun alone => nomatch alone.1
        have size := congrArg (fun shown => shown.toList.length) same
        simp [String.toList_append] at size

/-- A text that is no literal is read as the server name exactly from a host header in which it
stands alone. -/
theorem hostNameAndPort_hostText_of_error {text : String} {cause : HostError}
    (rejected : HostLiteral.read text = .error cause) (secure : Bool) (port : Int) :
    hostNameAndPort secure (hostText secure text (some port)) = (text, port) ↔
      port = defaultPort secure ∧ (':' ∈ text.toList → text.toList.head? = some '[') := by
  have alone : hostText secure text (some port) = text ↔
      port = defaultPort secure ∧ (':' ∈ text.toList → text.toList.head? = some '[') := by
    rw [hostText, formatHost_eq_self_iff]
    simp
  rw [← alone]
  constructor
  · intro back
    cases again : HostLiteral.read (hostText secure text (some port)) with
    | error other =>
        rw [hostNameAndPort_of_error again] at back
        exact congrArg Prod.fst back
    | ok literal =>
        -- The name of a literal is a literal itself.
        have name : literal.name = text := by
          rw [← hostNameAndPort_fst_of_ok again secure, back]
        have isName := HostLiteral.isLiteralName_of_read again
        rw [name] at isName
        have shown := read_formatHost isName none (by simp)
        rw [Option.map_none, formatHost_eq isName, rejected] at shown
        exact nomatch shown
  · intro same
    rw [same, hostNameAndPort_of_error rejected, (alone.mp same).1]

section Priced

variable {text : String} {port : Int}
  (listed : request.headers = some headers)
  (first : Headers.first? headers hostHeader = some text) (filled : text ≠ "")
  (unnamed : overrides.serverName = none) (priced : overrides.serverPort = some port)

include first filled unnamed priced in
theorem hostHeader?_of_first (secure : Bool) :
    overrides.hostHeader? secure (nameAndPort secure headers request.server) =
      some (hostText (overrides.secure.getD secure) (hostNameAndPort secure text).1
        (some port)) :=
  Overrides.hostHeader?_of_port unnamed priced secure
    (congrArg Prod.fst (nameAndPort_of_first first filled))

include listed first filled unnamed priced in
/-- The host header that is written for a port is a text of bytes, as the one before it was. -/
theorem fault_eq_none_iff_of_port :
    (view.enter overrides request).fault = none ↔
      request.state ≠ .null ∧
        (∀ name ∈ Snapshot.managedNames (view.names ++ overrides.headers.map (·.1)),
          ∃ bytes, headerName name = .ok bytes) ∧
        (Headers.assignAll headers overrides.headers).2 = none := by
  have latin : ∀ host, overrides.hostHeader? request.isSecure
      (nameAndPort request.isSecure headers request.server) = some host → IsLatin host := by
    intro host called
    rw [hostHeader?_of_first first filled unnamed priced] at called
    rw [← Option.some.inj called]
    exact isLatin_hostText (isLatin_hostNameAndPort (Headers.isLatin_of_first? first) _) _ _
  rw [fault_eq_none_iff listed, and_iff_left_of_imp fun _ => latin]

end Priced

/-- A port override keeps the server name exactly if the host header is a literal, or if the port is
not written and the header needs no brackets: any other text is taken for the name as a whole, with
what was added to it. -/
theorem port_override_keeps_name_iff {text : String} {port : Int}
    (listed : request.headers = some headers)
    (first : Headers.first? headers hostHeader = some text) (filled : text ≠ "")
    (unnamed : overrides.serverName = none) (priced : overrides.serverPort = some port)
    (least : 0 ≤ port) (greatest : port ≤ 65535) :
    let entered := view.enter overrides request
    ∃ name before, request.serverNameAndPort = .ok (some name, before) ∧
      (entered.fault = none ↔
        request.state ≠ .null ∧
          (∀ name ∈ Snapshot.managedNames (view.names ++ overrides.headers.map (·.1)),
            ∃ bytes, headerName name = .ok bytes) ∧
          (Headers.assignAll headers overrides.headers).2 = none) ∧
      (entered.fault = none →
        (entered.request.serverNameAndPort = .ok (some name, some port) ↔
          (∃ literal, HostLiteral.read text = .ok literal) ∨
            port = defaultPort entered.request.isSecure ∧
              (':' ∈ text.toList → text.toList.head? = some '['))) := by
  intro entered
  have seen : nameAndPort request.isSecure headers request.server = _ :=
    nameAndPort_of_first first filled
  refine ⟨(hostNameAndPort request.isSecure text).1,
    some (hostNameAndPort request.isSecure text).2,
    by rw [serverNameAndPort_of_headers listed, seen],
    fault_eq_none_iff_of_port listed first filled unnamed priced, fun complete => ?_⟩
  obtain ⟨others, written, accepts⟩ := accepts_of_enter complete
  obtain ⟨snapshot, -, put⟩ := enter_of_accepts accepts
  rw [show entered.request = _ from congrArg Entered.request put, isSecure_enteredRequest]
  rw [Option.some.inj (accepts.listed.symm.trans listed)] at accepts
  have called : overrides.hostHeader? request.isSecure
      (nameAndPort request.isSecure headers request.server) = _ :=
    hostHeader?_of_first first filled unnamed priced request.isSecure
  cases parsed : HostLiteral.read text with
  | ok literal =>
      have isName := HostLiteral.isLiteralName_of_read parsed
      have natural : Int.ofNat port.toNat = port := Int.toNat_of_nonneg least
      have back := @hostNameAndPort_hostText literal.name (some port.toNat)
        (overrides.secure.getD request.isSecure) isName (by simp [maxPort]; omega)
      rw [Option.map_some, natural] at back
      rw [hostNameAndPort_fst_of_ok parsed] at called ⊢
      refine iff_of_true ?_ (.inl ⟨literal, rfl⟩)
      rw [serverNameAndPort_of_called accepts called (formatHost_ne_empty isName.ne_empty _), back]
      rfl
  | error cause =>
      rw [hostNameAndPort_of_error parsed] at called ⊢
      rw [← hostNameAndPort_hostText_of_error parsed,
        serverNameAndPort_of_called accepts called (formatHost_ne_empty filled _)]
      cases hostNameAndPort (overrides.secure.getD request.isSecure)
        (hostText (overrides.secure.getD request.isSecure) text (some port))
      simp

/-- A request to an address with a port. -/
def addressedRequest : Request :=
  { kind := some "http"
    scheme := some "http"
    headers := some [⟨hostHeader, onWire "[2001:db8::1]:8080"⟩]
    state := .value [] }

/-- A port override keeps the address and replaces its port. -/
theorem port_override_keeps_address :
    let entered := ForwardedView.enter { names := [] } { serverPort := some 8443 } addressedRequest
    addressedRequest.serverNameAndPort = .ok (some "[2001:db8::1]", some 8080) ∧
      entered.fault = none ∧
      entered.request.serverNameAndPort = .ok (some "[2001:db8::1]", some 8443) := by
  intro entered
  have seen : addressedRequest.serverNameAndPort = .ok (some "[2001:db8::1]", some 8080) := by rfl
  have complete : entered.fault = none := by decide +kernel
  obtain ⟨name, before, known, -, keeps⟩ :=
    @port_override_keeps_name_iff { names := [] } { serverPort := some 8443 } addressedRequest _
      "[2001:db8::1]:8080" _ rfl (by decide +kernel) (by decide) rfl rfl (by decide) (by decide)
  have same : name = "[2001:db8::1]" :=
    Option.some.inj (congrArg Prod.fst (Except.ok.inj (known.symm.trans seen)))
  rw [same] at keeps
  exact ⟨seen, complete, (keeps complete).mpr (.inl ⟨⟨"[2001:db8::1]", some "8080"⟩, by rfl⟩)⟩

/-- A request whose host header is no literal. -/
def dottedRequest : Request :=
  { kind := some "http"
    scheme := some "http"
    headers := some [⟨hostHeader, onWire "edge..example"⟩]
    client := .value ⟨"10.0.0.1", some 4000⟩
    server := .value ⟨"127.0.0.1", some 8080⟩ }

/-- The port becomes a part of a name that is no literal. -/
theorem port_override_moves_name :
    let entered := ForwardedView.enter { names := [] } { serverPort := some 8443 } dottedRequest
    dottedRequest.serverNameAndPort = .ok (some "edge..example", some 80) ∧
      entered.fault = none ∧
      entered.request.serverNameAndPort = .ok (some "edge..example:8443", some 80) ∧
      entered.request.serverNameAndPort ≠ .ok (some "edge..example", some 8443) := by
  intro entered
  have moved : entered.request.serverNameAndPort = .ok (some "edge..example:8443", some 80) := by
    rfl
  refine ⟨by rfl, by decide +kernel, moved, fun kept => ?_⟩
  have same := Except.ok.inj (moved.symm.trans kept)
  exact absurd same (by decide)

end ForwardedView

end ForwardedClient.Request
