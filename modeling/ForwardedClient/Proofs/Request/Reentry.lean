import ForwardedClient.Proofs.Request.Encoding
import ForwardedClient.Proofs.Request.Refusal
import ForwardedClient.Proofs.Request.ServerName

/-!
Contract: a forwarded view that is entered once more on the request that it shows.

Owns: the servers whose name and port a host header gives back as it was given them, and the law
that overrides which were put on change nothing when they are put on again.

Does not own: how a request comes to be resolved to the same overrides again.
-/

namespace ForwardedClient.Request

open ForwardedClient.Address
open ForwardedClient.Data
open ForwardedClient.Text

/-! ### Names in a host header -/

/-- A server name that a host header can hold: it stands there as it is, or it is an IPv6 address
that gets its brackets there, and does not close them itself. -/
inductive IsServerName (name : String) : Prop where
  | literal (isName : IsLiteralName name)
  | bare (ipv6 : isIpv6 name.toList = true)
      (enclosed : ∀ char ∈ name.toList, (char == ']') = false)

section Names

variable {name : String} {secure : Bool}

theorem IsServerName.isLiteralName_formatHost (isName : IsServerName name) :
    IsLiteralName (formatHost name) := by
  cases isName with
  | literal isName =>
      rw [formatHost_eq isName]
      exact isName
  | bare ipv6 enclosed =>
      have colon : ':' ∈ name.toList := by
        obtain ⟨address, zone, split, plain⟩ := exists_isPlainIpv6 ipv6
        have several := plain.two_le_count_colon
        rw [split]
        exact List.mem_append_left zone (List.count_pos_iff.mp (by omega))
      have unopened : name.toList.head? ≠ some '[' := by
        obtain ⟨first, rest, letters, isFirst⟩ := head_of_isIpv6 ipv6
        rw [letters, List.head?_cons]
        rintro opened
        rw [Option.some.inj opened] at isFirst
        exact absurd isFirst (by decide)
      have bracketed : (name.toList.contains ':' && name.toList.head? != some '[') = true := by
        simp [colon, unopened]
      have shown : formatHost name = "[" ++ name ++ "]" := by
        simp only [formatHost, if_pos bracketed]
      refine .bracketed name.toList ?_ enclosed ipv6
      rw [shown, String.toList_append, String.toList_append]
      rfl

/-- A name that has its brackets gets no others. -/
theorem formatHost_formatHost (name : String) (port : Option Int) :
    formatHost (formatHost name) port = formatHost name port := by
  by_cases bare : (name.toList.contains ':' && name.toList.head? != some '[') = true
  · have shown : formatHost name = "[" ++ name ++ "]" := by
      simp only [formatHost, if_pos bare]
    have opened : ¬ (("[" ++ name ++ "]").toList.contains ':' &&
        ("[" ++ name ++ "]").toList.head? != some '[') = true := by
      simp [String.toList_append]
    rw [shown]
    simp only [formatHost, if_pos bare, if_neg opened]
  · have shown : formatHost name = name := by
      simp only [formatHost, if_neg bare]
    rw [shown]

theorem hostText_formatHost (secure : Bool) (name : String) (port : Option Int) :
    hostText secure (formatHost name) port = hostText secure name port :=
  formatHost_formatHost name _

/-- The default port is written like none. -/
theorem hostText_getD (secure : Bool) (name : String) (port : Option Int) :
    hostText secure name (some (port.getD (defaultPort secure))) = hostText secure name port := by
  cases port with
  | none => simp [hostText, Option.filter]
  | some number => rfl

/-- What is read from a host header that was written: the name with its brackets, and the port or
the default one. -/
theorem hostNameAndPort_hostText_of_isServerName (secure : Bool) (isName : IsServerName name)
    {port : Option Nat} (bounded : ∀ number, port = some number → number ≤ maxPort) :
    hostText secure name (port.map Int.ofNat) ≠ "" ∧
      hostNameAndPort secure (hostText secure name (port.map Int.ofNat)) =
        (formatHost name, (port.map Int.ofNat).getD (defaultPort secure)) := by
  rw [← hostText_formatHost]
  exact ⟨hostText_ne_empty isName.isLiteralName_formatHost secure port,
    hostNameAndPort_hostText secure isName.isLiteralName_formatHost bounded⟩

end Names

/-! ### Servers -/

/-- A server name and port, each if known, that a host header can hold. -/
structure IsReadable (server : Option String × Option Int) : Prop where
  name : ∀ name, server.1 = some name → IsServerName name
  port : ∀ port, server.2 = some port → ∃ number, number ≤ maxPort ∧ port = Int.ofNat number

theorem isReadable_none : IsReadable (none, none) where
  name := fun _ same => nomatch same
  port := fun _ same => nomatch same

theorem IsReadable.exists_port {server : Option String × Option Int}
    (readable : IsReadable server) :
    ∃ port : Option Nat, server.2 = port.map Int.ofNat ∧
      ∀ number, port = some number → number ≤ maxPort := by
  cases known : server.2 with
  | none => exact ⟨none, rfl, by simp⟩
  | some port =>
      obtain ⟨number, bounded, same⟩ := readable.port port known
      exact ⟨some number, congrArg some same, fun other equal => Option.some.inj equal ▸ bounded⟩

/-- Of two readable servers the names and ports of one, and of the other where that has none, are a
readable server. -/
theorem IsReadable.orElse {claimed original : Option String × Option Int}
    (own : IsReadable claimed) (others : IsReadable original) :
    IsReadable (claimed.1.orElse fun _ => original.1, claimed.2.orElse fun _ => original.2) where
  name := by
    intro name same
    cases named : claimed.1 with
    | none => exact others.name name (by simpa [named] using same)
    | some other => exact own.name name (by simpa [named] using same)
  port := by
    intro port same
    cases priced : claimed.2 with
    | none => exact others.port port (by simpa [priced] using same)
    | some other => exact own.port port (by simpa [priced] using same)

/-- A request that tells its server: by a host header that is a host literal, or, if that is absent
or empty, by a local endpoint with a server name and perhaps a port, or not at all. -/
inductive TellsServer (headers : List Header) (server : Slot Endpoint) : Prop where
  | host (text : String) (literal : HostLiteral)
      (first : Headers.first? headers hostHeader = some text)
      (parsed : HostLiteral.read text = .ok literal)
  | endpoint (silent : ∀ text, Headers.first? headers hostHeader = some text → text = "")
      (named : ∀ endpoint, server = .value endpoint → IsServerName endpoint.host)
      (bounded : ∀ endpoint port, server = .value endpoint → endpoint.port = some port →
        0 ≤ port ∧ port ≤ 65535)

theorem nameAndPort_fst_eq_none_iff {secure : Bool} {headers : List Header}
    {server : Slot Endpoint} :
    (nameAndPort secure headers server).1 = none ↔
      (Headers.first? headers hostHeader).filter (!·.isEmpty) = none ∧ server.get? = none := by
  rw [nameAndPort_eq, serverFrom]
  cases (Headers.first? headers hostHeader).filter (!·.isEmpty) with
  | some text => simp
  | none => simp

theorem exists_defaultPort (secure : Bool) :
    ∃ number, number ≤ maxPort ∧ defaultPort secure = Int.ofNat number := by
  cases secure with
  | false => exact ⟨80, by decide, rfl⟩
  | true => exact ⟨443, by decide, rfl⟩

theorem isReadable_hostNameAndPort (secure : Bool) {text : String} {literal : HostLiteral}
    (parsed : HostLiteral.read text = .ok literal) :
    IsReadable (some (hostNameAndPort secure text).1, some (hostNameAndPort secure text).2) := by
  have isName := IsServerName.literal (HostLiteral.isLiteralName_of_read parsed)
  unfold hostNameAndPort
  simp only [parsed]
  split
  · rename_i port counted
    obtain ⟨written, -, read⟩ := Option.map_eq_some_iff.mp counted
    refine ⟨fun name same => Option.some.inj same ▸ isName, fun other same => ?_⟩
    exact ⟨port, readPort_le read, (Option.some.inj same).symm⟩
  · refine ⟨fun name same => Option.some.inj same ▸ isName, fun other same => ?_⟩
    exact Option.some.inj same ▸ exists_defaultPort secure

theorem TellsServer.isReadable {headers : List Header} {server : Slot Endpoint}
    (tells : TellsServer headers server) (secure : Bool) :
    IsReadable (nameAndPort secure headers server) := by
  rw [nameAndPort_eq, serverFrom]
  cases tells with
  | host text literal first parsed =>
      have filled : text.isEmpty = false := by
        rw [String.isEmpty_eq_false_iff]
        rintro rfl
        cases parsed
      rw [first, Option.filter_some, filled]
      exact isReadable_hostNameAndPort secure parsed
  | endpoint silent named bounded =>
      have unheard : (Headers.first? headers hostHeader).filter (!·.isEmpty) = none := by
        rw [Option.filter_eq_none_iff]
        intro text found
        rw [silent text found]
        decide
      rw [unheard]
      cases server with
      | missing => exact isReadable_none
      | null => exact isReadable_none
      | value endpoint =>
          refine ⟨fun name same => Option.some.inj same ▸ named endpoint rfl, fun port same => ?_⟩
          obtain ⟨lower, upper⟩ := bounded endpoint port rfl same
          exact ⟨port.toNat, by unfold maxPort; omega, (Int.toNat_of_nonneg lower).symm⟩

/-- The host header that is called for is called for again by the server that is read from it. -/
theorem hostHeader?_of_written {overrides : Overrides} {secure : Bool}
    {original : Option String × Option Int} {text : String}
    (claimed : IsReadable (overrides.serverName, overrides.serverPort))
    (readable : IsReadable original)
    (called : overrides.hostHeader? secure original = some text) :
    text ≠ "" ∧
      overrides.hostHeader? (overrides.secure.getD secure)
        (some (hostNameAndPort (overrides.secure.getD secure) text).1,
          some (hostNameAndPort (overrides.secure.getD secure) text).2) = some text := by
  have both := claimed.orElse readable
  obtain ⟨port, counted, bounded⟩ := both.exists_port
  have secured : overrides.secure.getD (overrides.secure.getD secure) =
      overrides.secure.getD secure := by
    cases overrides.secure <;> rfl
  unfold Overrides.hostHeader? at called ⊢
  split at called
  · exact nomatch called
  · rename_i speaks
    rw [if_neg speaks, secured]
    obtain ⟨name, known, same⟩ := Option.map_eq_some_iff.mp called
    simp only at counted
    rw [counted] at same
    obtain ⟨filled, back⟩ := hostNameAndPort_hostText_of_isServerName
      (overrides.secure.getD secure) (both.name name known) bounded
    rw [same] at filled back
    refine ⟨filled, ?_⟩
    rw [back]
    -- Whatever the overrides do not say comes from the header now, and is written as before.
    have named : ∀ port, ((overrides.serverName.orElse fun _ => some (formatHost name)).map
        fun name => hostText (overrides.secure.getD secure) name port) =
          some (hostText (overrides.secure.getD secure) name port) := by
      intro port
      cases own : overrides.serverName with
      | none => exact congrArg some (hostText_formatHost _ name port)
      | some other =>
          rw [own] at known
          rw [← Option.some.inj known]
          rfl
    rw [named, ← same]
    cases own : overrides.serverPort with
    | none =>
        exact congrArg some (hostText_getD _ name (port.map Int.ofNat))
    | some number =>
        rw [own] at counted
        exact congrArg (fun port => some (hostText _ name port)) counted

/-! ### Entering again -/

theorem writeHost_of_values {headers : List Header} {host : Option String}
    (there : ∀ text, host = some text → Headers.values headers hostHeader = [text]) :
    Headers.writeHost headers host = .ok headers := by
  cases host with
  | none => rfl
  | some text =>
      have single := there text rfl
      have member : text ∈ Headers.values headers hostHeader := by
        rw [single]
        exact List.mem_singleton_self text
      obtain ⟨header, -, same⟩ := List.mem_map.mp member
      rw [← same] at single
      rw [Headers.writeHost, ← same, LatinText.encode_text, Except.map,
        Headers.set_of_values single]

namespace ForwardedView

theorem localEnd_localEnd (view : ForwardedView) (overrides : Overrides) (server : Slot Endpoint) :
    view.localEnd overrides (view.localEnd overrides server) =
      view.localEnd overrides server := by
  unfold localEnd
  generalize (if view.changesLocalName then overrides.serverName else none) = name
  generalize (if view.changesLocalPort then overrides.serverPort else none) = port
  cases server <;> cases name <;> cases port <;> rfl

/-- Without a name there is no local endpoint to make. -/
theorem localEnd_of_unknown {view : ForwardedView} {overrides : Overrides} {server : Slot Endpoint}
    (name : overrides.serverName = none) (unknown : server.get? = none) :
    view.localEnd overrides server = server := by
  unfold localEnd
  rw [name, unknown]
  cases view.changesLocalName <;> rfl

section Again

variable {view : ForwardedView} {overrides : Overrides} {request : Request}
  {headers written : List Header}

/-- The host header that the overrides call for is there once they were put on. -/
theorem values_of_called (accepts : view.Accepts overrides request headers written)
    (unmanaged : ∀ update ∈ overrides.headers, headerName update.1 ≠ .ok hostHeader)
    (claimed : IsReadable (overrides.serverName, overrides.serverPort))
    (readable : IsReadable (nameAndPort request.isSecure headers request.server)) {text : String}
    (called : overrides.hostHeader? (overrides.secure.getD request.isSecure)
      (nameAndPort (overrides.secure.getD request.isSecure) written
        (view.localEnd overrides request.server)) = some text) :
    Headers.values written hostHeader = [text] := by
  obtain ⟨changed, assigned, hosted⟩ := accepts.assigned
  have shown := values_writeHost hosted
  cases first : overrides.hostHeader? request.isSecure
      (nameAndPort request.isSecure headers request.server) with
  | some other =>
      obtain ⟨filled, again⟩ := hostHeader?_of_written claimed readable first
      rw [first] at shown
      have seen : Headers.first? written hostHeader = some other := by
        rw [Headers.first?_eq, shown]
        rfl
      have visible : other.isEmpty = false := String.isEmpty_eq_false_iff.mpr filled
      rw [nameAndPort_eq, serverFrom, seen, Option.filter_some, visible] at called
      have same := Option.some.inj (again.symm.trans called)
      rw [← same]
      exact shown
  | none =>
      -- Nothing was written, so that the second view finds no more of a server than the first.
      exfalso
      rw [first] at hosted
      injection hosted with same
      unfold Overrides.hostHeader? at first called
      split at called
      · cases called
      · rename_i speaks
        rw [if_neg speaks, Option.map_eq_none_iff] at first
        obtain ⟨name, known, -⟩ := Option.map_eq_some_iff.mp called
        cases own : overrides.serverName with
        | some other =>
            rw [own] at first
            cases first
        | none =>
            rw [own] at first known
            obtain ⟨unheard, unknown⟩ := nameAndPort_fst_eq_none_iff.mp first
            have unnamed : (nameAndPort (overrides.secure.getD request.isSecure) written
                (view.localEnd overrides request.server)).1 = none := by
              rw [nameAndPort_fst_eq_none_iff, localEnd_of_unknown own unknown, ← same,
                Headers.first?_assignAll unmanaged assigned]
              exact ⟨unheard, unknown⟩
            cases unnamed.symm.trans known

/-- Overrides that were put on can be put on again, and write the same headers. -/
theorem accepts_again (accepts : view.Accepts overrides request headers written)
    (distinct : (overrides.headers.map fun update => lower update.1).Nodup)
    (unmanaged : ∀ update ∈ overrides.headers, headerName update.1 ≠ .ok hostHeader)
    (claimed : IsReadable (overrides.serverName, overrides.serverPort))
    (readable : IsReadable (nameAndPort request.isSecure headers request.server)) :
    view.Accepts overrides (view.enteredRequest overrides request written) written written := by
  obtain ⟨changed, assigned, hosted⟩ := accepts.assigned
  refine ⟨rfl, Slot.value_ne_null _, ?names, written, ?updates, ?host⟩
  case names =>
    exact Snapshot.exists_managedValues_iff.mpr
      (Snapshot.exists_managedValues_iff.mp accepts.named)
  case updates =>
    refine Headers.assignAll_again distinct assigned fun update member name isName => ?_
    have differ : hostHeader ≠ name := fun same => unmanaged update member (same ▸ isName)
    exact Headers.values_writeHost_of_ne differ hosted
  case host =>
    rw [isSecure_enteredRequest]
    exact writeHost_of_values fun text called =>
      values_of_called accepts unmanaged claimed readable called

/-- Overrides that are put on a second time change nothing, whatever else has come into the
state. -/
theorem isUntouched_enteredRequest (view : ForwardedView) (overrides : Overrides)
    (request : Request) (written : List Header) {fields others : Fields}
    (host : others.find? remoteHostKey = fields.find? remoteHostKey) :
    IsUntouched { view.enteredRequest overrides request written with state := .value fields }
      { view.enteredRequest overrides
          { view.enteredRequest overrides request written with state := .value fields } written with
        state := .value others } := by
  refine ⟨?client, ?scheme, localEnd_localEnd view overrides request.server, rfl,
    congrArg Except.ok host⟩
  case client =>
    unfold enteredRequest
    cases overrides.remoteAddress with
    | none => rfl
    | some address => cases request.client <;> rfl
  case scheme =>
    unfold enteredRequest
    cases overrides.secure <;> rfl

end Again

end ForwardedView

end ForwardedClient.Request
