import ForwardedClient.CommandLine.Run
import ForwardedClient.Proofs.Settings.ProxyPattern
import ForwardedClient.Proofs.Settings.Values

/-!
Contract: patterns given to the command that resolves a request.

Owns: what the options of the command change in the settings, and what comes of every text given as
a pattern: settings, a report of invalid input, or the end of the program.

Does not own: how a request is resolved under settings that were read.
-/

namespace ForwardedClient.CommandLine

open ForwardedClient.Console
open ForwardedClient.Data
open ForwardedClient.Middleware (Lookup)
open ForwardedClient.Pattern
open ForwardedClient.Settings
open ForwardedClient.Trust

variable {foreign : Prop}

namespace ResolveOptions

/-- The text that is given as the pattern of some proxies. -/
def pattern? (options : ResolveOptions) : ProxyRole → Option String
  | .internal => options.internal
  | .trusted => options.trusted

/-- The value that the options give for a field. -/
def value? (options : ResolveOptions) : Field → Option (Datum foreign)
  | .internalProxies => options.internal.map .text
  | .trustedProxies => options.trusted.map .text
  | .standardHeaderOnly => options.standardOnly.map .bool
  | _ => none

/-- What a single change is under the name of a field. -/
def change (field : Field) (value : Option (Datum foreign)) : Fields foreign :=
  (value.map fun value => (field.name, value)).toList

theorem last?_change (field other : Field) (value : Option (Datum foreign)) :
    Fields.last? (change field value) other.name = if field = other then value else none := by
  cases value with
  | none => exact (ite_self none).symm
  | some value =>
      have single : Fields.last? (change field (some value)) other.name =
          if field.name = other.name then some value else none := Fields.find?_cons _ _ _
      rw [single]
      by_cases same : field = other
      · rw [if_pos same, if_pos (congrArg Field.name same)]
      · rw [if_neg same, if_neg fun named => same (Field.name_injective named)]

theorem changes_eq (options : ResolveOptions) :
    (options.changes : Fields foreign) =
      change .trustedProxies (options.value? .trustedProxies) ++
        change .internalProxies (options.value? .internalProxies) ++
        change .standardHeaderOnly (options.value? .standardHeaderOnly) := rfl

theorem last?_changes (options : ResolveOptions) (field : Field) :
    Fields.last? (options.changes : Fields foreign) field.name =
      options.value? field := by
  rw [changes_eq, Fields.last?_append, Fields.last?_append, last?_change, last?_change,
    last?_change]
  cases field <;> simp [value?]

theorem known_of_mem_changes {options : ResolveOptions} {entry : String × Datum foreign}
    (member : entry ∈ options.changes) : ∃ field : Field, field.name = entry.1 := by
  have known {field : Field} {value : Option (Datum foreign)}
      (member : entry ∈ change field value) :
      ∃ field : Field, field.name = entry.1 := by
    obtain ⟨_, -, rfl⟩ := Option.map_eq_some_iff.mp (Option.mem_toList.mp member)
    exact ⟨field, rfl⟩
  rw [changes_eq, List.mem_append, List.mem_append] at member
  rcases member with (isTrusted | isInternal) | isMode
  · exact known isTrusted
  · exact known isInternal
  · exact known isMode

theorem value?_field (options : ResolveOptions) (role : ProxyRole) :
    (options.value? role.field : Option (Datum foreign)) =
      (options.pattern? role).map .text := by
  cases role <;> rfl

end ResolveOptions

section Resolve

variable {reader : Reader foreign} {settings : ForwardedClient.Settings}
variable {options : ResolveOptions} {role : ProxyRole} {text : String}

/-- With one pattern in doubt, all other fields are those of valid settings. -/
theorem isValidBut_changed (within : IsWithin reader.room settings)
    (readable : ∀ other ∈ options.pattern? role.other,
      ∃ node, Node.readWithin reader.room other = .ok node) :
    IsValidBut reader (settings.changed options.changes) role.field where
  known := settings.unknownFields_changed fun _ member =>
    ResolveOptions.known_of_mem_changes member
  others := by
    have accepted :
        (options.value? role.other.field).bind (reader.complaint? role.other.field) = none := by
      rw [ResolveOptions.value?_field]
      cases given : options.pattern? role.other with
      | none => rfl
      | some other =>
          obtain ⟨node, reads⟩ := readable other given
          rw [Option.map_some, Option.bind_some, ProxyRole.complaint?_field,
            pattern_of_reads reads]
          rfl
    intro field different
    rw [complaint?_changed within, ResolveOptions.last?_changes]
    cases field with
    | internalProxies | trustedProxies =>
        cases role
        all_goals first | exact absurd rfl different | exact accepted
    | standardHeaderOnly =>
        rw [ResolveOptions.value?]
        cases options.standardOnly with
        | none => rfl
        | some chosen => exact congrArg complaintOf (reader.switch_bool chosen)
    | _ => rfl

theorem find?_changed_of_pattern (given : options.pattern? role = some text) :
    (settings.changed options.changes : Source foreign).find? role.field =
      some (.text text) := by
  rw [settings.find?_changed, ResolveOptions.last?_changes, ResolveOptions.value?_field, given]
  rfl

/-- The report of invalid input, with the text of its faults as marked text. -/
def invalidInput (settings : ForwardedClient.Settings) (options : ResolveOptions)
    (faults : List Settings.Fault) : Outcome :=
  match (faultPanel (settings.toFields.update options.changes) faults).draw consoleWidth with
  | .error fault => ⟨[], .error (.markup fault)⟩
  | .ok panel => ⟨panel, .ok { exitCode := 1 }⟩

theorem resolve_of_fails {cause : PatternError} (lookup : Lookup)
    (within : IsWithin reader.room settings)
    (readable : ∀ other ∈ options.pattern? role.other,
      ∃ node, Node.readWithin reader.room other = .ok node)
    (given : options.pattern? role = some text)
    (fails : Node.readWithin reader.room text = .error cause) :
    resolve settings lookup options foreign reader =
      if cause.endsReading then ⟨[], .error (.settings (.brokeOff text cause))⟩
      else invalidInput settings options [⟨role.field.name, .badPattern text cause⟩] := by
  have found :
      (settings.changed options.changes : Source foreign).find? role.field =
        some (.text text) := find?_changed_of_pattern given
  have outcome := read_of_fails (isValidBut_changed within readable) found fails
  have overridden : settings.override options.changes [] reader =
      Settings.read (settings.changed options.changes) reader := rfl
  unfold resolve
  rw [overridden, outcome]
  cases cause.endsReading <;> rfl

end Resolve

section Samples

/-- A source with one text only. -/
def sourceOf (role : ProxyRole) (text : String) : Source := ⟨[(role.field.name, .text text)], []⟩

theorem isValidBut_sourceOf (role : ProxyRole) (text : String) :
    IsValidBut .lax (sourceOf role text) role.field := isValidBut_single

theorem find?_sourceOf (role : ProxyRole) (text : String) :
    (sourceOf role text).find? role.field = some (.text text) := Source.find?_single

/-- The fault of a text that is no pattern. -/
def fault? (text : String) : Option PatternError :=
  match Node.readWithin stackRoom text with
  | .ok _ => none
  | .error fault => some fault

theorem readWithin_of_fault? {text : String} {fault : PatternError}
    (found : fault? text = some fault) : Node.readWithin stackRoom text = .error fault := by
  unfold fault? at found
  split at found
  · cases found
  · rename_i other fails
    rw [fails, Option.some.inj found]

end Samples

end ForwardedClient.CommandLine
