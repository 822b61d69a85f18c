import ForwardedClient.Proofs.Address.HostLiteral
import ForwardedClient.Proofs.Request.View
import ForwardedClient.Proofs.Text.Latin

/-!
Contract: what it takes to write overrides onto the wire.

Owns: the success of every step that encodes a text, from a single header name up to entering a
forwarded view, for texts of bytes.

Does not own: where names and values come from.
-/

namespace ForwardedClient.Request

open ForwardedClient.Address
open ForwardedClient.Text

/-! ### Names and values of headers -/

theorem exists_headerName {name : String} (latin : IsLatin name) :
    ∃ bytes, headerName name = .ok bytes :=
  exists_encode_iff.mpr (isLatin_lower latin)

theorem Headers.exists_assign (headers : List Header) {name : String} {value : Option String}
    (nameLatin : IsLatin name) (valueLatin : ∀ text, value = some text → IsLatin text) :
    ∃ changed, Headers.assign headers name value = .ok changed := by
  obtain ⟨bytes, named⟩ := exists_headerName nameLatin
  unfold Headers.assign
  cases value with
  | none =>
      refine ⟨Headers.erase headers bytes, ?_⟩
      simp [named, bind, Except.bind, pure, Except.pure]
  | some text =>
      obtain ⟨content, encoded⟩ := exists_encode_iff.mpr (valueLatin text rfl)
      refine ⟨Headers.set headers bytes content, ?_⟩
      simp [named, encoded, bind, Except.bind, pure, Except.pure]

/-- An update whose name and value are texts of bytes. -/
def IsWritable (update : String × Option String) : Prop :=
  IsLatin update.1 ∧ ∀ text, update.2 = some text → IsLatin text

theorem Headers.exists_assignAll (headers : List Header)
    {updates : List (String × Option String)} (writable : ∀ update ∈ updates, IsWritable update) :
    ∃ changed, Headers.assignAll headers updates = (changed, none) := by
  induction updates generalizing headers with
  | nil => exact ⟨headers, rfl⟩
  | cons update rest inductionHypothesis =>
      obtain ⟨nameLatin, valueLatin⟩ := writable update List.mem_cons_self
      obtain ⟨next, assigned⟩ := Headers.exists_assign headers nameLatin valueLatin
      obtain ⟨changed, assignedAll⟩ := inductionHypothesis next fun later member =>
        writable later (List.mem_cons_of_mem update member)
      refine ⟨changed, ?_⟩
      rw [Headers.assignAll, assigned]
      exact assignedAll

/-- Whether updates can be made does not depend on the headers that are there. -/
theorem Headers.assignAll_snd (headers others : List Header)
    (updates : List (String × Option String)) :
    (assignAll headers updates).2 = (assignAll others updates).2 := by
  induction updates generalizing headers others with
  | nil => rfl
  | cons update rest inductionHypothesis =>
      obtain ⟨name, value⟩ := update
      simp only [assignAll, assign, bind, Except.bind, pure, Except.pure]
      cases headerName name with
      | error cause => rfl
      | ok bytes =>
          cases value with
          | none => exact inductionHypothesis _ _
          | some value =>
              simp only
              cases LatinText.encode value with
              | error cause => rfl
              | ok content => exact inductionHypothesis _ _

theorem exists_writeHost_iff {headers : List Header} {host : Option String} :
    (∃ written, Headers.writeHost headers host = .ok written) ↔
      ∀ text, host = some text → IsLatin text := by
  cases host with
  | none => simp [Headers.writeHost]
  | some text =>
      constructor
      · rintro ⟨written, hosted⟩ other same
        rw [← Option.some.inj same]
        cases encoded : LatinText.encode text with
        | error cause => simp [Headers.writeHost, encoded, Except.map] at hosted
        | ok bytes => exact exists_encode_iff.mp ⟨bytes, encoded⟩
      · intro latin
        obtain ⟨bytes, encoded⟩ := exists_encode_iff.mpr (latin text rfl)
        exact ⟨Headers.set headers hostHeader bytes,
          by simp [Headers.writeHost, encoded, Except.map]⟩

/-! ### Managed headers -/

namespace Snapshot

theorem mem_insertName {name other : String} {names : List String}
    (member : other ∈ insertName name names) : other = name ∨ other ∈ names := by
  induction names with
  | nil => exact Or.inl (List.mem_singleton.mp member)
  | cons first rest inductionHypothesis =>
      rw [insertName] at member
      split at member
      · exact Or.inr member
      · split at member
        · exact List.mem_cons.mp member
        · rcases List.mem_cons.mp member with same | later
          · exact Or.inr (same ▸ List.mem_cons_self)
          · exact (inductionHypothesis later).imp_right (List.mem_cons_of_mem first)

theorem mem_of_mem_foldr_insertName {name : String} {names : List String}
    (member : name ∈ names.foldr insertName []) : name ∈ names := by
  induction names with
  | nil => exact member
  | cons first rest inductionHypothesis =>
      rw [List.foldr_cons] at member
      rcases mem_insertName member with same | later
      · exact same ▸ List.mem_cons_self
      · exact List.mem_cons_of_mem first (inductionHypothesis later)

theorem isLatin_of_mem_managedNames {names : List String}
    (latin : ∀ name ∈ names, IsLatin name) : ∀ name ∈ managedNames names, IsLatin name := by
  intro name member
  rcases List.mem_cons.mp (mem_of_mem_foldr_insertName member) with host | lowered
  · rw [host]
    decide
  · obtain ⟨original, isName, same⟩ := List.mem_map.mp lowered
    rw [← same]
    exact isLatin_lower (latin original isName)

theorem exists_managedValues_iff {headers : List Header} {names : List String} :
    (∃ managed, managedValues headers names = .ok managed) ↔
      ∀ name ∈ names, ∃ bytes, headerName name = .ok bytes := by
  induction names with
  | nil => simp [managedValues]
  | cons name rest inductionHypothesis =>
      rw [List.forall_mem_cons, ← inductionHypothesis, managedValues]
      cases headerName name with
      | error cause => simp
      | ok bytes => cases managedValues headers rest <;> simp [Except.map]

theorem exists_managedValues (headers : List Header) {names : List String}
    (latin : ∀ name ∈ names, IsLatin name) :
    ∃ managed, managedValues headers names = .ok managed :=
  exists_managedValues_iff.mpr fun name member => exists_headerName (latin name member)

end Snapshot

/-! ### The host header -/

theorem isLatin_natText (number : Nat) : IsLatin (toString number) := by
  rw [Nat.toString_eq_repr, IsLatin, Nat.toList_repr]
  intro char member
  have bounds := isAsciiDigit_of_mem_toDigits member
  simp only [isAsciiDigit, Bool.and_eq_true, decide_eq_true_eq] at bounds
  have upper : char.toNat ≤ 57 := bounds.2
  simp only [isLatin, decide_eq_true_eq]
  omega

theorem isLatin_intText (number : Int) : IsLatin (toString number) := by
  cases number with
  | ofNat number => exact isLatin_natText number
  | negSucc number =>
      show IsLatin ("-" ++ toString (number + 1))
      exact isLatin_append.mpr ⟨by decide, isLatin_natText (number + 1)⟩

theorem isLatin_formatHost {name : String} (latin : IsLatin name) (port : Option Int) :
    IsLatin (formatHost name port) := by
  have shown : IsLatin (if name.toList.contains ':' && name.toList.head? != some '[' then
      "[" ++ name ++ "]" else name) := by
    split
    · exact isLatin_append.mpr ⟨isLatin_append.mpr ⟨by decide, latin⟩, by decide⟩
    · exact latin
  cases port with
  | none => exact shown
  | some port =>
      exact isLatin_append.mpr ⟨isLatin_append.mpr ⟨shown, by decide⟩, isLatin_intText port⟩

/-- A host header is a text of bytes if its name is one, whatever its port. -/
theorem isLatin_hostText {name : String} (latin : IsLatin name) (secure : Bool)
    (port : Option Int) : IsLatin (hostText secure name port) :=
  isLatin_formatHost latin _

/-- The name that is read from a host header is a part of it. -/
theorem isLatin_hostNameAndPort {host : String} (latin : IsLatin host) (secure : Bool) :
    IsLatin (hostNameAndPort secure host).1 := by
  unfold hostNameAndPort
  cases parsed : HostLiteral.read host with
  | error cause => exact latin
  | ok literal =>
      have name : IsLatin literal.name := fun char member =>
        latin char ((HostLiteral.mem_of_read parsed).1 member)
      simp only
      split <;> exact name

theorem Headers.isLatin_of_first? {headers : List Header} {name : LatinText} {value : String}
    (found : Headers.first? headers name = some value) : IsLatin value := by
  unfold Headers.first? at found
  obtain ⟨header, -, same⟩ := Option.map_eq_some_iff.mp found
  rw [← same]
  exact header.value.isLatin_text

theorem Headers.isLatin_of_mem_values {headers : List Header} {name : LatinText} {value : String}
    (member : value ∈ Headers.values headers name) : IsLatin value := by
  obtain ⟨header, -, same⟩ := List.mem_map.mp member
  rw [← same]
  exact header.value.isLatin_text

/-- The server name that a request shows is a text of bytes if that of its local endpoint is. -/
theorem isLatin_of_nameAndPort {secure : Bool} {headers : List Header} {server : Slot Endpoint}
    (endpointLatin : ∀ endpoint, server = .value endpoint → IsLatin endpoint.host) {name : String}
    (shown : (nameAndPort secure headers server).1 = some name) : IsLatin name := by
  unfold nameAndPort at shown
  cases found : (Headers.first? headers hostHeader).filter (!·.isEmpty) with
  | some host =>
      rw [found] at shown
      rw [← Option.some.inj shown]
      exact isLatin_hostNameAndPort
        (Headers.isLatin_of_first? (Option.filter_eq_some_iff.mp found).1) secure
  | none =>
      rw [found] at shown
      cases server with
      | missing => exact nomatch shown
      | null => exact nomatch shown
      | value endpoint =>
          rw [← Option.some.inj shown]
          exact endpointLatin endpoint rfl

namespace ForwardedView

/-- A view of writable names can be entered exactly if there is a state, and the host header that
is called for is a text of bytes. -/
theorem exists_accepts_iff_host {view : ForwardedView} {overrides : Overrides} {request : Request}
    {headers : List Header} (listed : request.headers = some headers)
    (names : ∀ name ∈ view.names, IsLatin name)
    (writable : ∀ update ∈ overrides.headers, IsWritable update) :
    (∃ headers written, view.Accepts overrides request headers written) ↔
      request.state ≠ .null ∧ ∀ text, overrides.hostHeader? request.isSecure
        (nameAndPort request.isSecure headers request.server) = some text → IsLatin text := by
  constructor
  · rintro ⟨others, written, othersListed, present, -, changed, -, hosted⟩
    rw [Option.some.inj (othersListed.symm.trans listed)] at hosted
    exact ⟨present, exists_writeHost_iff.mp ⟨written, hosted⟩⟩
  · rintro ⟨present, hostLatin⟩
    have managedLatin : ∀ name ∈ view.names ++ overrides.headers.map (·.1), IsLatin name := by
      intro name member
      rcases List.mem_append.mp member with own | updated
      · exact names name own
      · obtain ⟨update, isUpdate, same⟩ := List.mem_map.mp updated
        rw [← same]
        exact (writable update isUpdate).1
    obtain ⟨changed, assigned⟩ := Headers.exists_assignAll headers writable
    obtain ⟨written, hosted⟩ := exists_writeHost_iff.mpr hostLatin
    exact ⟨headers, written, listed, present,
      Snapshot.exists_managedValues headers (Snapshot.isLatin_of_mem_managedNames managedLatin),
      changed, assigned, hosted⟩

/-- All that can keep a view of a request with headers from being entered: a state that is null, and
the texts that cannot stand on the wire. -/
theorem fault_eq_none_iff {view : ForwardedView} {overrides : Overrides} {request : Request}
    {headers : List Header} (listed : request.headers = some headers) :
    (view.enter overrides request).fault = none ↔
      request.state ≠ .null ∧
        (∀ name ∈ Snapshot.managedNames (view.names ++ overrides.headers.map (·.1)),
          ∃ bytes, headerName name = .ok bytes) ∧
        (Headers.assignAll headers overrides.headers).2 = none ∧
        ∀ text, overrides.hostHeader? request.isSecure
          (nameAndPort request.isSecure headers request.server) = some text → IsLatin text := by
  constructor
  · intro entered
    obtain ⟨others, written, othersListed, present, named, changed, assigned, hosted⟩ :=
      accepts_of_enter entered
    rw [Option.some.inj (othersListed.symm.trans listed)] at named assigned hosted
    exact ⟨present, Snapshot.exists_managedValues_iff.mp named, congrArg Prod.snd assigned,
      exists_writeHost_iff.mp ⟨written, hosted⟩⟩
  · rintro ⟨present, named, assigned, latin⟩
    obtain ⟨written, hosted⟩ := exists_writeHost_iff.mpr latin
    obtain ⟨snapshot, -, put⟩ := @enter_of_accepts view overrides request headers written
      ⟨listed, present, Snapshot.exists_managedValues_iff.mpr named,
        (Headers.assignAll headers overrides.headers).1, Prod.ext rfl assigned, hosted⟩
    rw [put]

/-- A view can be entered if all that it writes are texts of bytes. -/
theorem exists_accepts {view : ForwardedView} {overrides : Overrides} {request : Request}
    {headers : List Header} (listed : request.headers = some headers)
    (present : request.state ≠ .null) (names : ∀ name ∈ view.names, IsLatin name)
    (writable : ∀ update ∈ overrides.headers, IsWritable update)
    (serverName : ∀ name, overrides.serverName = some name → IsLatin name)
    (endpointLatin : overrides.serverName = none →
      ∀ endpoint, request.server = .value endpoint → IsLatin endpoint.host) :
    ∃ headers written, view.Accepts overrides request headers written := by
  refine (exists_accepts_iff_host listed names writable).mpr ⟨present, fun text called => ?_⟩
  unfold Overrides.hostHeader? at called
  split at called
  · exact nomatch called
  · obtain ⟨name, known, same⟩ := Option.map_eq_some_iff.mp called
    have nameLatin : IsLatin name := by
      cases claimed : overrides.serverName with
      | some own =>
          rw [claimed] at known
          rw [← Option.some.inj known]
          exact serverName own claimed
      | none =>
          rw [claimed] at known
          exact isLatin_of_nameAndPort (endpointLatin claimed) known
    rw [← same]
    exact isLatin_hostText nameLatin _ _

end ForwardedView

end ForwardedClient.Request
