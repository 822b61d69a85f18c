import ForwardedClient.Proofs.Data.Fields
import ForwardedClient.Settings.Read

/-!
Contract: how the faults of settings are gathered.

Owns: the complaint about a field, read off its value alone; that all complaints are reported in the
order of the fields, and that there are settings exactly if there is none; sources in which nothing
but one field is in doubt; the values of settings that were read.

Does not own: which values a reader accepts.
-/

namespace ForwardedClient.Settings

open ForwardedClient.Data

variable {foreign : Prop}

/-! ### Complaints -/

def complaintOf {α : Type} : Except Complaint α → Option Complaint
  | .ok _ => none
  | .error complaint => some complaint

/-- The complaint about a value of a field. -/
def Reader.complaint? (reader : Reader foreign) : Field → Datum foreign → Option Complaint
  | .environment, value => complaintOf (reader.environment value)
  | .consoleFormat, value => complaintOf (reader.format value)
  | .logFilePath, value | .logLevel, value | .clientHeader, value | .proxiesHeader, value
  | .secureValue, value => complaintOf (reader.text value)
  | .protocolHeader, value | .portHeader, value | .hostHeader, value =>
    complaintOf (reader.maybeText value)
  | .internalProxies, value | .trustedProxies, value => complaintOf (reader.pattern value)
  | .plainPort, value | .securePort, value => complaintOf (reader.port value)
  | .standardHeaderOnly, value | .publishesAttributes, value | .changesLocalName, value
  | .changesLocalPort, value | .looksUpNames, value => complaintOf (reader.switch value)

namespace Source

/-- The complaint about what a source holds for a field. -/
def complaint? (source : Source foreign) (reader : Reader foreign) (field : Field) :
    Option Complaint :=
  (source.find? field).bind (reader.complaint? field)

def faultsOf (source : Source foreign) (reader : Reader foreign) (field : Field) : List Fault :=
  ((source.complaint? reader field).map fun complaint => ⟨field.name, complaint⟩).toList

end Source

namespace Checked

section Apply

variable {α β : Type}

def faults : Checked α → List Fault
  | .ok _ => []
  | .error faults => faults

/-- A value is missing only where there is a fault. -/
def IsAccounted (checked : Checked α) : Prop := ∀ faults, checked = .error faults → faults ≠ []

theorem faults_apply (function : Checked (α → β)) (argument : Checked α) :
    (function.apply argument).faults = function.faults ++ argument.faults := by
  cases function <;> cases argument <;> simp [apply, faults]

theorem isAccounted_apply {function : Checked (α → β)} {argument : Checked α}
    (first : function.IsAccounted) (second : argument.IsAccounted) :
    (function.apply argument).IsAccounted := by
  intro faults failed
  cases function with
  | ok function =>
      cases argument with
      | ok argument => cases failed
      | error others =>
          cases failed
          exact second _ rfl
  | error former =>
      cases argument with
      | ok argument =>
          cases failed
          exact first _ rfl
      | error others =>
          cases failed
          exact List.append_ne_nil_of_left_ne_nil (first _ rfl) _

theorem apply_eq_ok_iff {function : Checked (α → β)} {argument : Checked α} {result : β} :
    function.apply argument = .ok result ↔
      ∃ applied value, function = .ok applied ∧ argument = .ok value ∧ applied value = result := by
  constructor
  · intro done
    cases function with
    | ok applied =>
        cases argument with
        | ok value => exact ⟨applied, value, rfl, rfl, Except.ok.inj done⟩
        | error others => cases done
    | error former => cases argument <;> cases done
  · rintro ⟨applied, value, rfl, rfl, rfl⟩
    rfl

end Apply

end Checked

section Read

variable {α : Type} (source : Source foreign) (field : Field) (fallback : α)
variable {take : Datum foreign → Except Complaint α}

theorem Source.faults_read (reader : Reader foreign)
    (same : ∀ value, complaintOf (take value) = reader.complaint? field value) :
    (source.read field fallback take).faults = source.faultsOf reader field := by
  rw [Source.read, Source.faultsOf, Source.complaint?]
  cases source.find? field with
  | none => rfl
  | some value =>
      rw [Option.bind_some, ← same]
      cases outcome : take value with
      | ok result => simp only [outcome, complaintOf]; rfl
      | error complaint => simp only [outcome, complaintOf]; rfl

theorem Source.isAccounted_read : (source.read field fallback take).IsAccounted := by
  intro faults failed
  rw [Source.read] at failed
  split at failed
  · cases failed
  · split at failed
    · cases failed
    · rw [← Except.error.inj failed]
      exact List.cons_ne_nil _ _

theorem Source.read_of_absent (absent : source.find? field = none) :
    source.read field fallback take = .ok fallback := by
  rw [Source.read, absent]

/-- Where a value is found, the field is what is read from it. -/
theorem Source.read_eq_ok_iff {source : Source foreign} {field : Field} {fallback result : α}
    {value : Datum foreign} (found : source.find? field = some value) :
    source.read field fallback take = .ok result ↔ take value = .ok result := by
  rw [Source.read]
  simp only [found]
  cases outcome : take value with
  | ok other => exact ⟨fun same => congrArg Except.ok (Except.ok.inj same), fun same => same ▸ rfl⟩
  | error complaint => exact ⟨nofun, nofun⟩

end Read

/-! ### All fields -/

/-- All faults of the known fields, in their order. -/
theorem faults_readFields (source : Source foreign) (reader : Reader foreign) :
    (readFields source reader).faults = Field.all.flatMap (source.faultsOf reader) := by
  unfold readFields
  extract_lets start
  iterate 19 rw [Checked.faults_apply, Source.faults_read _ _ _ reader]
  · have startFaults : start.faults = [] := rfl
    simp only [startFaults, Field.all, List.flatMap_cons, List.flatMap_nil, List.nil_append,
      List.append_nil, List.append_assoc]
  all_goals exact fun _ => rfl

theorem isAccounted_readFields (source : Source foreign) (reader : Reader foreign) :
    (readFields source reader).IsAccounted := by
  have start : Checked.IsAccounted (.ok Settings.mk) := nofun
  unfold readFields
  iterate 19 refine Checked.isAccounted_apply ?_ (Source.isAccounted_read _ _ _)
  exact start

/-- The values of settings that were read are what was read for each field. -/
structure IsReadFrom (reader : Reader foreign) (source : Source foreign) (settings : Settings) :
    Prop where
  environment :
    source.read .environment initial.environment reader.environment = .ok settings.environment
  logFilePath : source.read .logFilePath initial.logFilePath reader.text = .ok settings.logFilePath
  logLevel : source.read .logLevel initial.logLevel reader.text = .ok settings.logLevel
  consoleFormat :
    source.read .consoleFormat initial.consoleFormat reader.format = .ok settings.consoleFormat
  clientHeader :
    source.read .clientHeader initial.clientHeader reader.text = .ok settings.clientHeader
  proxiesHeader :
    source.read .proxiesHeader initial.proxiesHeader reader.text = .ok settings.proxiesHeader
  protocolHeader :
    source.read .protocolHeader initial.protocolHeader reader.maybeText =
      .ok settings.protocolHeader
  secureValue : source.read .secureValue initial.secureValue reader.text = .ok settings.secureValue
  portHeader :
    source.read .portHeader initial.portHeader reader.maybeText = .ok settings.portHeader
  hostHeader :
    source.read .hostHeader initial.hostHeader reader.maybeText = .ok settings.hostHeader
  internalProxies :
    source.read .internalProxies initial.internalProxies reader.pattern =
      .ok settings.internalProxies
  trustedProxies :
    source.read .trustedProxies initial.trustedProxies reader.pattern = .ok settings.trustedProxies
  plainPort : source.read .plainPort initial.plainPort reader.port = .ok settings.plainPort
  securePort : source.read .securePort initial.securePort reader.port = .ok settings.securePort
  standardHeaderOnly :
    source.read .standardHeaderOnly initial.standardHeaderOnly reader.switch =
      .ok settings.standardHeaderOnly
  publishesAttributes :
    source.read .publishesAttributes initial.publishesAttributes reader.switch =
      .ok settings.publishesAttributes
  changesLocalName :
    source.read .changesLocalName initial.changesLocalName reader.switch =
      .ok settings.changesLocalName
  changesLocalPort :
    source.read .changesLocalPort initial.changesLocalPort reader.switch =
      .ok settings.changesLocalPort
  looksUpNames :
    source.read .looksUpNames initial.looksUpNames reader.switch = .ok settings.looksUpNames

theorem readFields_eq_ok_iff {reader : Reader foreign} {source : Source foreign}
    {settings : Settings} :
    readFields source reader = .ok settings ↔ IsReadFrom reader source settings := by
  constructor
  · intro done
    unfold readFields at done
    -- The fields come off one by one, the last one first.
    iterate 19
      obtain ⟨_, _, earlier, _, rfl⟩ := Checked.apply_eq_ok_iff.mp done
      clear done
      have done := earlier
      clear earlier
    cases done
    constructor <;> assumption
  · intro isRead
    rw [readFields, isRead.environment, isRead.logFilePath, isRead.logLevel,
      isRead.consoleFormat, isRead.clientHeader, isRead.proxiesHeader, isRead.protocolHeader,
      isRead.secureValue, isRead.portHeader, isRead.hostHeader, isRead.internalProxies,
      isRead.trustedProxies, isRead.plainPort, isRead.securePort, isRead.standardHeaderOnly,
      isRead.publishesAttributes, isRead.changesLocalName, isRead.changesLocalPort,
      isRead.looksUpNames]
    rfl

/-! ### All settings -/

section Source

variable {reader : Reader foreign} {source : Source foreign} {settings : Settings}

theorem faultsOf_eq_nil_iff {field : Field} :
    source.faultsOf reader field = [] ↔ source.complaint? reader field = none := by
  rw [Source.faultsOf, Option.toList_eq_nil_iff, Option.map_eq_none_iff]

theorem flatMap_faultsOf_eq_nil_iff :
    Field.all.flatMap (source.faultsOf reader) = [] ↔
      ∀ field, source.complaint? reader field = none := by
  rw [List.flatMap_eq_nil_iff]
  exact ⟨fun none field => faultsOf_eq_nil_iff.mp (none field field.mem_all),
    fun none field _ => faultsOf_eq_nil_iff.mpr (none field)⟩

/-- A name that no field has is unknown. -/
theorem unknownFields_eq_nil_iff :
    unknownFields source = [] ↔ ∀ entry ∈ source.given, ∃ field : Field, field.name = entry.1 := by
  rw [unknownFields, List.map_eq_nil_iff, List.filter_eq_nil_iff]
  refine forall₂_congr fun entry _ => ?_
  simp only [Bool.not_eq_true, Bool.not_eq_false', List.any_eq_true, beq_iff_eq]
  exact ⟨fun ⟨field, _, named⟩ => ⟨field, named⟩,
    fun ⟨field, named⟩ => ⟨field, field.mem_all, named⟩⟩

theorem read_eq_ok_iff :
    read source reader = .ok settings ↔
      ∃ original, IsReadFrom reader source original ∧ unknownFields source = [] ∧
        settings = withEnvironment source original := by
  unfold read
  constructor
  · intro done
    split at done
    · rename_i original isRead known
      exact ⟨original, readFields_eq_ok_iff.mp isRead, known, (Except.ok.inj done).symm⟩
    · cases done
    · cases done
  · rintro ⟨original, isRead, known, rfl⟩
    rw [readFields_eq_ok_iff.mpr isRead, known]

/-- All complaints and all unknown names are reported at once. -/
theorem read_of_faults
    (faulty : Field.all.flatMap (source.faultsOf reader) ++ unknownFields source ≠ []) :
    read source reader =
      .error (.ofFaults (Field.all.flatMap (source.faultsOf reader) ++ unknownFields source)) := by
  have gathered := faults_readFields source reader
  unfold read
  split
  · rename_i original isRead known
    rw [isRead] at gathered
    rw [known, ← gathered] at faulty
    exact absurd rfl faulty
  · rename_i original isRead unknown
    rw [isRead] at gathered
    rw [← gathered]
    rfl
  · rename_i faults isRead
    rw [isRead] at gathered
    rw [← gathered]
    rfl

/-- Settings are read exactly if there is no complaint about a field and no unknown name. -/
theorem exists_read_iff :
    (∃ settings, read source reader = .ok settings) ↔
      (∀ field, source.complaint? reader field = none) ∧ unknownFields source = [] := by
  constructor
  · rintro ⟨settings, done⟩
    by_cases faulty :
        Field.all.flatMap (source.faultsOf reader) ++ unknownFields source = []
    · obtain ⟨noFaults, known⟩ := List.append_eq_nil_iff.mp faulty
      exact ⟨flatMap_faultsOf_eq_nil_iff.mp noFaults, known⟩
    · rw [read_of_faults faulty] at done
      cases done
  · rintro ⟨noComplaint, known⟩
    have noFaults :=
      (faults_readFields source reader).trans (flatMap_faultsOf_eq_nil_iff.mpr noComplaint)
    cases isRead : readFields source reader with
    | error faults =>
        rw [isRead] at noFaults
        exact absurd noFaults (isAccounted_readFields source reader faults isRead)
    | ok original =>
        exact ⟨_, read_eq_ok_iff.mpr ⟨original, readFields_eq_ok_iff.mp isRead, known, rfl⟩⟩

/-- Nothing but one field of a source is in doubt. -/
structure IsValidBut (reader : Reader foreign) (source : Source foreign) (field : Field) :
    Prop where
  known : unknownFields source = []
  others : ∀ other, other ≠ field → source.complaint? reader other = none

/-- Settings can be read if what was in doubt is accepted. -/
theorem exists_read_of_accepted {field : Field} (valid : IsValidBut reader source field)
    (accepted : source.complaint? reader field = none) :
    ∃ settings, read source reader = .ok settings := by
  refine exists_read_iff.mpr ⟨fun other => ?_, valid.known⟩
  by_cases same : other = field
  · exact same ▸ accepted
  · exact valid.others other same

section Single

variable {field other : Field} {value : Datum foreign}

/-- A source with one value only. -/
def Source.single (field : Field) (value : Datum foreign) : Source foreign :=
  ⟨[(field.name, value)], []⟩

theorem Source.find?_single : (single field value).find? field = some value := by
  rw [find?, single, Fields.find?_cons, if_pos rfl]

theorem Source.find?_single_of_ne (different : other ≠ field) :
    (single field value).find? other = none := by
  have elsewhere : field.name ≠ other.name := fun same => different (Field.name_injective same).symm
  rw [find?, single, Fields.find?_cons, if_neg elsewhere]
  rfl

theorem isValidBut_single : IsValidBut reader (Source.single field value) field where
  known := unknownFields_eq_nil_iff.mpr fun entry member =>
    ⟨field, by rw [List.mem_singleton.mp member]⟩
  others := by
    intro other different
    rw [Source.complaint?, Source.find?_single_of_ne different]
    rfl

end Single

theorem flatMap_of_single {α β : Type} {items : List α} {contribution : α → List β} {item : α}
    (distinct : items.Nodup) (member : item ∈ items)
    (others : ∀ other, other ≠ item → contribution other = []) :
    items.flatMap contribution = contribution item := by
  induction items with
  | nil => cases member
  | cons first rest inductionHypothesis =>
      obtain ⟨absent, later⟩ := List.nodup_cons.mp distinct
      rw [List.flatMap_cons]
      rcases List.mem_cons.mp member with rfl | inRest
      · have nothing : rest.flatMap contribution = [] :=
          List.flatMap_eq_nil_iff.mpr fun other known =>
            others other fun same => absent (same ▸ known)
        rw [nothing, List.append_nil]
      · have elsewhere : first ≠ item := fun same => absent (same ▸ inRest)
        rw [others first elsewhere, inductionHypothesis later inRest, List.nil_append]

/-- One complaint is reported alone. -/
theorem read_of_complaint {field : Field} {complaint : Complaint}
    (valid : IsValidBut reader source field)
    (complained : source.complaint? reader field = some complaint) :
    read source reader = .error (.ofFaults [⟨field.name, complaint⟩]) := by
  have single : Field.all.flatMap (source.faultsOf reader) = [⟨field.name, complaint⟩] := by
    rw [flatMap_of_single (by decide) field.mem_all
      fun other different => faultsOf_eq_nil_iff.mpr (valid.others other different),
      Source.faultsOf, complained]
    rfl
  have all : Field.all.flatMap (source.faultsOf reader) ++ unknownFields source =
      [⟨field.name, complaint⟩] := by
    rw [single, valid.known, List.append_nil]
  rw [read_of_faults (all ▸ List.cons_ne_nil _ _), all]

end Source

end ForwardedClient.Settings
