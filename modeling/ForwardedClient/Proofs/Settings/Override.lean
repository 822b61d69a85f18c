import ForwardedClient.Proofs.Settings.ProxyPattern

/-!
Contract: settings that differ from others in some values.

Owns: which values a field takes by itself and what it shows for them; that settings with changes of
such values can be read under all variables, show the changes and keep everything else.

Does not own: what a field makes of a value.
-/

namespace ForwardedClient.Settings

open ForwardedClient.Data
open ForwardedClient.Trust

variable {foreign : Prop}

/-- A field takes a value, and shows another one for it, if settings can be read from that value
alone. -/
def Reader.Takes (reader : Reader foreign) (field : Field) (value shown : Datum foreign) : Prop :=
  ∃ settings, read (Source.single field value) reader = .ok settings ∧ settings.value field = shown

section Takes

variable {reader : Reader foreign} {field : Field} {value shown : Datum foreign}

theorem Reader.takes_iff :
    reader.Takes field value shown ↔ reader.validated field value = .ok shown := by
  constructor
  · rintro ⟨settings, done, rfl⟩
    exact validated_of_read done Source.find?_single
  · intro valid
    have accepted : (Source.single field value).complaint? reader field = none := by
      rw [Source.complaint?, Source.find?_single, Option.bind_some, ← complaintOf_validated, valid]
      rfl
    obtain ⟨settings, done⟩ := exists_read_of_accepted isValidBut_single accepted
    have shows := validated_of_read done Source.find?_single
    exact ⟨settings, done, Except.ok.inj (shows.symm.trans valid)⟩

theorem Reader.Takes.accepted (takes : reader.Takes field value shown) :
    reader.complaint? field value = none := by
  rw [← complaintOf_validated, takes_iff.mp takes]
  rfl

end Takes

section Override

variable {reader : Reader foreign} {settings result : ForwardedClient.Settings}
variable {changes : Fields foreign} {exported : List (String × String)}

/-- Every change is a value that some field takes. -/
def AreTaken (reader : Reader foreign) (changes : Fields foreign) : Prop :=
  ∀ entry ∈ changes, ∃ (field : Field) (shown : Datum foreign),
    field.name = entry.1 ∧ reader.Takes field entry.2 shown

theorem AreTaken.takes (taken : AreTaken reader changes) {field : Field} {value : Datum foreign}
    (last : changes.last? field.name = some value) : ∃ shown, reader.Takes field value shown := by
  have member := List.mem_reverse.mp (Fields.mem_of_find? last)
  obtain ⟨other, shown, named, takes⟩ := taken _ member
  exact ⟨shown, Field.name_injective named ▸ takes⟩

/-- Changes that are taken one by one can be made together, under all variables. -/
theorem exists_override (within : IsWithin reader.room settings)
    (exported : List (String × String)) (taken : AreTaken reader changes) :
    ∃ result, settings.override changes exported reader = .ok result := by
  refine exists_read_iff.mpr
    ⟨fun field => ?_, settings.unknownFields_changed fun entry member => ?_⟩
  · refine (complaint?_changed within changes exported field).trans ?_
    cases last : changes.last? field.name with
    | none => rfl
    | some value =>
        obtain ⟨shown, takes⟩ := taken.takes last
        exact takes.accepted
  · obtain ⟨field, shown, named, -⟩ := taken entry member
    exact ⟨field, named⟩

theorem value_of_changed (done : settings.override changes exported reader = .ok result)
    {field : Field} {value : Datum foreign} (last : changes.last? field.name = some value) :
    reader.Takes field value (result.value field) := by
  refine Reader.takes_iff.mpr (validated_of_read done ?_)
  exact (settings.find?_changed changes exported field).trans (by rw [last]; rfl)

theorem value_of_unchanged (within : IsWithin reader.room settings)
    (done : settings.override changes exported reader = .ok result) {field : Field}
    (unnamed : field.name ∉ changes.map (·.1)) :
    (result.value field : Datum foreign) = settings.value field := by
  have found : (settings.changed changes exported).find? field = some (settings.value field) := by
    rw [find?_changed, Fields.last?_eq_none_iff.mpr unnamed]
    rfl
  have shows := validated_of_read done found
  exact Except.ok.inj (shows.symm.trans (validated_value within field))

/-- Settings with changes of values that their fields take can be read under all variables, with
the room for patterns that the settings were read with or with more. Changed fields show what they
take, all others are as they were, and without changes so is the whole. -/
theorem override_changes_only_named_fields {source : Source foreign}
    (built : read source reader = .ok settings) {room : Nat} (more : reader.room ≤ room)
    (changes : Fields foreign) (exported : List (String × String))
    (taken : AreTaken (reader.within room more) changes) :
    ∃ result, settings.override changes exported (reader.within room more) = .ok result ∧
      (∀ (field : Field) (value : Datum foreign), changes.last? field.name = some value →
        (reader.within room more).Takes field value (result.value field)) ∧
      (∀ field : Field, field.name ∉ changes.map (·.1) →
        (result.value field : Datum foreign) = settings.value field) ∧
      (changes = [] →
        result = settings ∧
          Rules.read (some result.internalProxies.text) (some result.trustedProxies.text) room =
            .ok settings.rules ∧
          result.managedHeaders = settings.managedHeaders) := by
  have within : IsWithin (reader.within room more).room settings :=
    (isWithin_of_read built).of_le more
  obtain ⟨result, done⟩ := exists_override within exported taken
  have kept : ∀ field : Field, field.name ∉ changes.map (·.1) →
      (result.value field : Datum foreign) = settings.value field :=
    fun _ unnamed => value_of_unchanged within done unnamed
  refine ⟨result, done, fun _ _ last => value_of_changed done last, kept, ?_⟩
  rintro rfl
  obtain rfl : result = settings := eq_of_value fun field => kept field List.not_mem_nil
  exact ⟨rfl, rules_read within, rfl⟩

end Override

section Samples

/-- Values for production that say how much is logged. -/
def loudSource : Source := ⟨[("ENV", .text "production"), ("LOG_LEVEL", .bytes "ERROR")], []⟩

def loudSettings : ForwardedClient.Settings :=
  { initial with environment := .production, logLevel := "ERROR", consoleFormat := .json }

theorem read_loudSource : read loudSource = .ok loudSettings := by
  refine read_eq_ok_iff.mpr
    ⟨{ initial with environment := .production, logLevel := "ERROR" }, ?_, rfl, ?_⟩
  · constructor
    case environment => rfl
    case logLevel => rfl
    all_goals
      dsimp only
      exact Source.read_of_absent _ _ _ rfl
  · have leveled : (loudSource.find? .logLevel).isNone = false := rfl
    have unformatted : (loudSource.find? .consoleFormat).isNone = true := rfl
    simp [withEnvironment, leveled, unformatted, loudSettings, Environment.consoleFormat]

def stagingChanges : Fields := [("ENV", .text "staging"), ("HTTP_SERVER_PORT", .text " 8_080 ")]

theorem areTaken_stagingChanges : AreTaken .lax stagingChanges := by
  intro entry member
  rcases List.mem_cons.mp member with rfl | later
  · exact ⟨.environment, .text "staging", rfl, Reader.takes_iff.mpr rfl⟩
  · rw [List.mem_singleton.mp later]
    exact ⟨.plainPort, .int 8080, rfl, Reader.takes_iff.mpr rfl⟩

/-- Neither the level that staging has by default, nor the level and the port among the variables,
replace values of the settings. -/
theorem loudSettings_overridden :
    read loudSource = .ok loudSettings ∧ AreTaken .lax stagingChanges ∧
      loudSettings.override stagingChanges
          [("LOG_LEVEL", "DEBUG"), ("HTTPS_SERVER_PORT", "none")] =
        .ok { loudSettings with environment := .staging, plainPort := ⟨8080, by decide⟩ } := by
  obtain ⟨result, done, changed, kept, -⟩ := override_changes_only_named_fields read_loudSource
    (Nat.le_refl _) stagingChanges [("LOG_LEVEL", "DEBUG"), ("HTTPS_SERVER_PORT", "none")]
    areTaken_stagingChanges
  have staged := Reader.takes_iff.mp (changed .environment (.text "staging") rfl)
  have ported := Reader.takes_iff.mp (changed .plainPort (.text " 8_080 ") rfl)
  suffices same : ∀ field, (result.value field : Datum) =
      Settings.value { loudSettings with environment := .staging, plainPort := ⟨8080, by decide⟩ }
        field from
    ⟨read_loudSource, areTaken_stagingChanges,
      done.trans (congrArg Except.ok (eq_of_value same))⟩
  intro field
  cases field with
  | environment => exact Except.ok.inj (staged.symm.trans rfl)
  | plainPort => exact Except.ok.inj (ported.symm.trans rfl)
  | _ => exact kept _ (by decide)

end Samples

end ForwardedClient.Settings
