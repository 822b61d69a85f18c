import ForwardedClient.Proofs.Settings.Gathering

/-!
Contract: the values of settings as a source of settings.

Owns: the room that the patterns of settings take; what is found among the values of settings under
the name of a field; that every value is read back from itself, so that only changed values can be
complained about and settings are told by their values; what settings show for a value that was
read.

Does not own: what changed values are read as.
-/

namespace ForwardedClient

open ForwardedClient.Data
open ForwardedClient.Pattern
open ForwardedClient.Settings

namespace Settings

variable {foreign : Prop}

/-! ### Patterns -/

section Pattern

variable {reader : Reader foreign} {value : Datum foreign} {text : String}

theorem Reader.pattern_eq_ok_iff {pattern : ProxyPattern} :
    reader.pattern value = .ok pattern ↔
      reader.text value = .ok pattern.text ∧
        Node.readWithin reader.room pattern.text = .ok pattern.node := by
  rw [Reader.pattern]
  cases reader.text value with
  | error complaint => exact ⟨nofun, nofun⟩
  | ok text =>
      have isRead : ProxyPattern.read text reader.room = .ok pattern ↔
          Except.ok (ε := Complaint) text = .ok pattern.text ∧
            Node.readWithin reader.room pattern.text = .ok pattern.node := by
        rw [ProxyPattern.read_eq_ok_iff, Except.ok.injEq, eq_comm]
        exact and_congr_right fun same => same ▸ Iff.rfl
      rw [← isRead]
      dsimp only
      cases ProxyPattern.read text reader.room with
      | error cause => exact ⟨nofun, nofun⟩
      | ok other => constructor <;> intro same <;> exact congrArg _ (Except.ok.inj same)

theorem Reader.pattern_of_fails {cause : PatternError} (isText : reader.text value = .ok text)
    (fails : Node.readWithin reader.room text = .error cause) :
    reader.pattern value = .error (.badPattern text cause) := by
  rw [Reader.pattern]
  simp only [isText, ProxyPattern.read_eq_error_iff.mpr fails]

end Pattern

/-! ### Room for patterns -/

/-- The patterns of settings can be read within some room. -/
structure IsWithin (room : Nat) (settings : Settings) : Prop where
  internalProxies :
    Node.readWithin room settings.internalProxies.text = .ok settings.internalProxies.node
  trustedProxies :
    Node.readWithin room settings.trustedProxies.text = .ok settings.trustedProxies.node

section Room

variable {settings : Settings} {less more : Nat}

theorem IsWithin.of_le (within : IsWithin less settings) (le : less ≤ more) :
    IsWithin more settings :=
  ⟨readWithin_of_ok le within.internalProxies, readWithin_of_ok le within.trustedProxies⟩

theorem exists_isWithin (settings : Settings) : ∃ room, IsWithin room settings := by
  let roomFor (pattern : ProxyPattern) : Nat :=
    2 * pattern.text.length + 2 + (pattern.node.depth + 1)
  have fits {room : Nat} (pattern : ProxyPattern) (roomy : roomFor pattern ≤ room) :
      Node.readWithin room pattern.text = .ok pattern.node :=
    readWithin_of_read pattern.reads (Nat.le_trans (Nat.le_add_right _ _) roomy)
      (Nat.le_trans (Nat.le_add_left _ _) roomy)
  exact ⟨roomFor settings.internalProxies + roomFor settings.trustedProxies,
    fits _ (Nat.le_add_right _ _), fits _ (Nat.le_add_left _ _)⟩

/-- A pattern that can be read within some room is read as its own tree there. -/
theorem ProxyPattern.readWithin_of_isOk {pattern : ProxyPattern}
    (readable : (Node.readWithin less pattern.text).isOk = true) (le : less ≤ more) :
    Node.readWithin more pattern.text = .ok pattern.node := by
  cases reads : Node.readWithin less pattern.text with
  | error cause =>
      rw [reads] at readable
      cases readable
  | ok node =>
      have same := (read_of_readWithin reads).symm.trans pattern.reads
      rw [readWithin_of_ok le reads]
      exact congrArg Except.ok (Except.ok.inj same)

/-- Settings that were read have patterns for which their reader had room. -/
theorem isWithin_of_read {reader : Reader foreign} {source : Source foreign}
    (done : read source reader = .ok settings) : IsWithin reader.room settings := by
  obtain ⟨original, isRead, -, rfl⟩ := read_eq_ok_iff.mp done
  have internalProxies : initial.internalProxies = ProxyPattern.privateBlocks := by rw [initial]
  have trustedProxies : initial.trustedProxies = ProxyPattern.unset := by rw [initial]
  have fits {field : Field} {fallback pattern : ProxyPattern}
      (initially : (Node.readWithin ProxyPattern.leastRoom fallback.text).isOk = true)
      (isRead : source.read field fallback reader.pattern = .ok pattern) :
      Node.readWithin reader.room pattern.text = .ok pattern.node := by
    cases found : source.find? field with
    | none =>
        rw [source.read_of_absent field fallback found] at isRead
        rw [← Except.ok.inj isRead]
        exact fallback.readWithin_of_isOk initially reader.leastRoom_le_room
    | some value => exact (Reader.pattern_eq_ok_iff.mp ((Source.read_eq_ok_iff found).mp isRead)).2
  exact ⟨fits (internalProxies ▸ ProxyPattern.readable_privateBlocks) isRead.internalProxies,
    fits (trustedProxies ▸ ProxyPattern.readable_unset) isRead.trustedProxies⟩

end Room

/-! ### What a field makes of a value -/

/-- What settings show for a value that was given for a field. -/
def Reader.validated (reader : Reader foreign) :
    Field → Datum foreign → Except Complaint (Datum foreign)
  | .environment, value =>
    (reader.environment value).map fun environment => .text environment.name
  | .consoleFormat, value => (reader.format value).map fun format => .text format.name
  | .logFilePath, value | .logLevel, value | .clientHeader, value | .proxiesHeader, value
  | .secureValue, value => (reader.text value).map .text
  | .protocolHeader, value | .portHeader, value | .hostHeader, value =>
    (reader.maybeText value).map optionalText
  | .internalProxies, value | .trustedProxies, value =>
    (reader.pattern value).map fun pattern => .text pattern.text
  | .plainPort, value | .securePort, value => (reader.port value).map fun port => .int port.val
  | .standardHeaderOnly, value | .publishesAttributes, value | .changesLocalName, value
  | .changesLocalPort, value | .looksUpNames, value => (reader.switch value).map .bool

theorem complaintOf_map {α β : Type} (change : α → β) (outcome : Except Complaint α) :
    complaintOf (outcome.map change) = complaintOf outcome := by
  cases outcome <;> rfl

theorem complaintOf_validated (reader : Reader foreign) (field : Field) (value : Datum foreign) :
    complaintOf (reader.validated field value) = reader.complaint? field value := by
  cases field <;> exact complaintOf_map _ _

section Found

variable {reader : Reader foreign} {source : Source foreign} {settings : Settings}
variable {field : Field} {value : Datum foreign}

theorem map_of_read {α : Type} {fallback result : α} {take : Datum foreign → Except Complaint α}
    (found : source.find? field = some value)
    (isRead : source.read field fallback take = .ok result) (shown : α → Datum foreign) :
    (take value).map shown = .ok (shown result) := by
  rw [(Source.read_eq_ok_iff found).mp isRead]
  rfl

theorem validated_of_isReadFrom (isRead : IsReadFrom reader source settings)
    (found : source.find? field = some value) :
    reader.validated field value = .ok (settings.value field) := by
  cases field with
  | environment => exact map_of_read found isRead.environment _
  | logFilePath => exact map_of_read found isRead.logFilePath _
  | logLevel => exact map_of_read found isRead.logLevel _
  | consoleFormat => exact map_of_read found isRead.consoleFormat _
  | clientHeader => exact map_of_read found isRead.clientHeader _
  | proxiesHeader => exact map_of_read found isRead.proxiesHeader _
  | protocolHeader => exact map_of_read found isRead.protocolHeader _
  | secureValue => exact map_of_read found isRead.secureValue _
  | portHeader => exact map_of_read found isRead.portHeader _
  | hostHeader => exact map_of_read found isRead.hostHeader _
  | internalProxies => exact map_of_read found isRead.internalProxies _
  | trustedProxies => exact map_of_read found isRead.trustedProxies _
  | plainPort => exact map_of_read found isRead.plainPort _
  | securePort => exact map_of_read found isRead.securePort _
  | standardHeaderOnly => exact map_of_read found isRead.standardHeaderOnly _
  | publishesAttributes => exact map_of_read found isRead.publishesAttributes _
  | changesLocalName => exact map_of_read found isRead.changesLocalName _
  | changesLocalPort => exact map_of_read found isRead.changesLocalPort _
  | looksUpNames => exact map_of_read found isRead.looksUpNames _

/-- The defaults of an environment do not touch a field for which there is a value. -/
theorem value_withEnvironment (found : source.find? field = some value) :
    ((withEnvironment source settings).value field : Datum foreign) =
      settings.value field := by
  cases field with
  | logLevel | consoleFormat => simp only [withEnvironment, Settings.value, found]; rfl
  | _ => rfl

/-- Settings show for a field what it makes of the value that was found for it. -/
theorem validated_of_read (done : read source reader = .ok settings)
    (found : source.find? field = some value) :
    reader.validated field value = .ok (settings.value field) := by
  obtain ⟨original, isRead, -, rfl⟩ := read_eq_ok_iff.mp done
  rw [value_withEnvironment found]
  exact validated_of_isReadFrom isRead found

end Found

/-! ### Values of settings -/

section Names

variable (settings : Settings)

theorem map_toFields :
    (settings.toFields : Fields foreign).map (·.1) = Field.all.map Field.name := by
  rw [toFields, List.map_map]
  rfl

theorem hasDistinctNames_toFields :
    (settings.toFields : Fields foreign).HasDistinctNames := by
  rw [Fields.HasDistinctNames, map_toFields]
  have distinct : Field.all.Nodup := by decide
  exact List.pairwise_map.mpr
    (distinct.imp fun different same => different (Field.name_injective same))

theorem find?_toFields (field : Field) :
    (settings.toFields : Fields foreign).find? field.name = some (settings.value field) :=
  Fields.find?_of_mem settings.hasDistinctNames_toFields
    (List.mem_map.mpr ⟨field, field.mem_all, rfl⟩)

/-- Values of settings with some changes, before variables. -/
def changed (changes : Fields foreign) (exported : List (String × String) := []) :
    Source foreign :=
  ⟨settings.toFields.update changes, exported⟩

theorem find?_changed (changes : Fields foreign) (exported : List (String × String))
    (field : Field) :
    (settings.changed changes exported).find? field =
      some ((Fields.last? changes field.name).getD (settings.value field)) := by
  rw [Source.find?, changed, Fields.find?_update, find?_toFields]
  cases Fields.last? changes field.name <;> rfl

theorem unknownFields_changed {changes : Fields foreign} {exported : List (String × String)}
    (known : ∀ entry ∈ changes, ∃ field : Field, field.name = entry.1) :
    unknownFields (settings.changed changes exported) = [] := by
  rw [unknownFields_eq_nil_iff]
  intro entry member
  rcases Fields.mem_map_update.mp (List.mem_map.mpr ⟨entry, member, rfl⟩) with isChange | isValue
  · obtain ⟨change, isChange, named⟩ := List.mem_map.mp isChange
    obtain ⟨field, isField⟩ := known change isChange
    exact ⟨field, isField.trans named⟩
  · rw [map_toFields] at isValue
    obtain ⟨field, -, named⟩ := List.mem_map.mp isValue
    exact ⟨field, named⟩

end Names

section Kept

variable {reader : Reader foreign}

theorem maybeText_optionalText (text : Option String) :
    reader.maybeText (optionalText text) = .ok text := by
  cases text with
  | none => rfl
  | some text =>
      have kept : (reader.text (.text text)).map some = .ok (some text) := by
        rw [reader.text_text]
        rfl
      exact kept

theorem pattern_text {pattern : ProxyPattern}
    (reads : Node.readWithin reader.room pattern.text = .ok pattern.node) :
    reader.pattern (.text pattern.text) = .ok pattern :=
  Reader.pattern_eq_ok_iff.mpr ⟨reader.text_text _, reads⟩

theorem port_val (port : PortNumber) : reader.port (.int port.val) = .ok port := by
  have inRange : (0 : Int) ≤ port.val ∧ (port.val : Int) ≤ Address.maxPort := by omega
  rw [Reader.port]
  simp only [reader.whole_int, dif_pos inRange, Int.toNat_natCast]

variable {settings : Settings} (within : IsWithin reader.room settings)
include within

/-- Values of settings are read back by readers that have room for its patterns, whatever the
variables. -/
theorem isReadFrom_changed_nil (exported : List (String × String)) :
    IsReadFrom reader (settings.changed [] exported) settings := by
  have same {α : Type} {field : Field} {fallback result : α}
      {take : Datum foreign → Except Complaint α}
      (kept : take (settings.value field) = .ok result) :
      (settings.changed [] exported).read field fallback take = .ok result :=
    (Source.read_eq_ok_iff (settings.find?_changed [] exported field)).mpr kept
  exact {
    environment := same (reader.environment_name _)
    logFilePath := same (reader.text_text _)
    logLevel := same (reader.text_text _)
    consoleFormat := same (reader.format_name _)
    clientHeader := same (reader.text_text _)
    proxiesHeader := same (reader.text_text _)
    protocolHeader := same (maybeText_optionalText _)
    secureValue := same (reader.text_text _)
    portHeader := same (maybeText_optionalText _)
    hostHeader := same (maybeText_optionalText _)
    internalProxies := same (pattern_text within.internalProxies)
    trustedProxies := same (pattern_text within.trustedProxies)
    plainPort := same (port_val _)
    securePort := same (port_val _)
    standardHeaderOnly := same (reader.switch_bool _)
    publishesAttributes := same (reader.switch_bool _)
    changesLocalName := same (reader.switch_bool _)
    changesLocalPort := same (reader.switch_bool _)
    looksUpNames := same (reader.switch_bool _) }

/-- Every value of settings is a fixed point of its own validation. -/
theorem validated_value (field : Field) :
    reader.validated field (settings.value field) = .ok (settings.value field) :=
  validated_of_isReadFrom (isReadFrom_changed_nil within []) (settings.find?_changed [] [] field)

theorem complaint?_value (field : Field) :
    reader.complaint? field (settings.value field) = none := by
  rw [← complaintOf_validated, validated_value within]
  rfl

/-- Only changes can be complained about. -/
theorem complaint?_changed (changes : Fields foreign) (exported : List (String × String))
    (field : Field) :
    (settings.changed changes exported).complaint? reader field =
      (Fields.last? changes field.name).bind (reader.complaint? field) := by
  rw [Source.complaint?, find?_changed]
  cases Fields.last? changes field.name with
  | none => exact complaint?_value within field
  | some value => rfl

end Kept

/-- Settings are told by their values. -/
theorem eq_of_value {left right : Settings}
    (same : ∀ field, (left.value field : Datum foreign) = right.value field) : left = right := by
  obtain ⟨leftRoom, leftWithin⟩ := exists_isWithin left
  obtain ⟨rightRoom, rightWithin⟩ := exists_isWithin right
  let lax : Reader foreign := .lax
  let reader := lax.within (lax.room + (leftRoom + rightRoom)) (Nat.le_add_right _ _)
  have leftRoomy : leftRoom ≤ reader.room := by
    simp only [reader, Reader.within]
    omega
  have rightRoomy : rightRoom ≤ reader.room := by
    simp only [reader, Reader.within]
    omega
  have listed : (left.toFields : Fields foreign) = right.toFields :=
    List.map_congr_left fun field _ => congrArg (field.name, ·) (same field)
  have sources : (left.changed [] : Source foreign) = right.changed [] :=
    congrArg (Source.mk · []) listed
  have leftRead : readFields (left.changed []) reader = .ok left :=
    readFields_eq_ok_iff.mpr (isReadFrom_changed_nil (leftWithin.of_le leftRoomy) [])
  have rightRead : readFields (right.changed []) reader = .ok right :=
    readFields_eq_ok_iff.mpr (isReadFrom_changed_nil (rightWithin.of_le rightRoomy) [])
  rw [sources, rightRead] at leftRead
  exact (Except.ok.inj leftRead).symm

end Settings

end ForwardedClient
