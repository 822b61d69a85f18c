import ForwardedClient.Proofs.Pattern.Limits
import ForwardedClient.Proofs.Settings.Values

/-!
Contract: patterns for proxies among settings.

Owns: what comes of settings for every text that stands for one of the two patterns while all other
fields are valid; that the patterns of settings can be read again.

Does not own: which texts are patterns.
-/

namespace ForwardedClient.Settings

open ForwardedClient.Data
open ForwardedClient.Pattern
open ForwardedClient.Trust

variable {foreign : Prop}

/-- Which proxies a pattern is for. -/
inductive ProxyRole where
  | internal
  | trusted
deriving DecidableEq

namespace ProxyRole

def field : ProxyRole → Field
  | .internal => .internalProxies
  | .trusted => .trustedProxies

def pattern (settings : ForwardedClient.Settings) : ProxyRole → ProxyPattern
  | .internal => settings.internalProxies
  | .trusted => settings.trustedProxies

def other : ProxyRole → ProxyRole
  | .internal => .trusted
  | .trusted => .internal

theorem complaint?_field (reader : Reader foreign) (role : ProxyRole) (value : Datum foreign) :
    reader.complaint? role.field value = complaintOf (reader.pattern value) := by
  cases role <;> rfl

end ProxyRole

section Text

variable {reader : Reader foreign} {text : String} {node : Node} {cause : PatternError}

theorem pattern_of_reads (reads : Node.readWithin reader.room text = .ok node) :
    reader.pattern (.text text) = .ok ⟨text, node, read_of_readWithin reads⟩ :=
  Reader.pattern_eq_ok_iff.mpr ⟨reader.text_text text, reads⟩

theorem pattern_of_fails (fails : Node.readWithin reader.room text = .error cause) :
    reader.pattern (.text text) = .error (.badPattern text cause) :=
  Reader.pattern_of_fails (reader.text_text text) fails

theorem ofFaults_badPattern (name : String) :
    Failure.ofFaults [⟨name, .badPattern text cause⟩] =
      if cause.endsReading then .brokeOff text cause
      else .faults [⟨name, .badPattern text cause⟩] := by
  rw [Failure.ofFaults]
  cases ends : cause.endsReading <;> simp [Complaint.breaksOff?, ends]

end Text

section Rules

variable {room : Nat} {pattern : ProxyPattern} {settings : ForwardedClient.Settings}

theorem readOptional_text (reads : Node.readWithin room pattern.text = .ok pattern.node) :
    AddressPattern.readOptional (some pattern.text) room = .ok pattern.toAddressPattern? := by
  rw [ProxyPattern.toAddressPattern?]
  by_cases empty : pattern.text.isEmpty = true
  · rw [if_pos empty]
    simp only [AddressPattern.readOptional, if_pos empty]
  · rw [if_neg empty, AddressPattern.readOptional_of_reads empty reads]

/-- The patterns of settings can be read again, and give the rules of the settings. -/
theorem rules_read (within : IsWithin room settings) :
    Rules.read (some settings.internalProxies.text) (some settings.trustedProxies.text) room =
      .ok settings.rules := by
  rw [Rules.read, readOptional_text within.internalProxies, readOptional_text within.trustedProxies]
  rfl

end Rules

section Source

variable {reader : Reader foreign} {source : Source foreign} {role : ProxyRole} {text : String}

theorem pattern_of_isReadFrom {settings : ForwardedClient.Settings} {node : Node}
    (isRead : IsReadFrom reader source settings)
    (given : source.find? role.field = some (.text text))
    (reads : Node.readWithin reader.room text = .ok node) :
    role.pattern settings = ⟨text, node, read_of_readWithin reads⟩ := by
  cases role with
  | internal =>
      have read := (Source.read_eq_ok_iff given).mp isRead.internalProxies
      exact Except.ok.inj (read.symm.trans (pattern_of_reads reads))
  | trusted =>
      have read := (Source.read_eq_ok_iff given).mp isRead.trustedProxies
      exact Except.ok.inj (read.symm.trans (pattern_of_reads reads))

/-- A text that can be read gives settings with its pattern. -/
theorem exists_read_of_reads {node : Node} (valid : IsValidBut reader source role.field)
    (given : source.find? role.field = some (.text text))
    (reads : Node.readWithin reader.room text = .ok node) :
    ∃ settings, read source reader = .ok settings ∧
      role.pattern settings = ⟨text, node, read_of_readWithin reads⟩ := by
  have accepted : source.complaint? reader role.field = none := by
    rw [Source.complaint?, given, Option.bind_some, ProxyRole.complaint?_field,
      pattern_of_reads reads]
    rfl
  obtain ⟨settings, done⟩ := exists_read_of_accepted valid accepted
  obtain ⟨original, isRead, -, rfl⟩ := read_eq_ok_iff.mp done
  refine ⟨_, done, ?_⟩
  have unchanged : role.pattern (withEnvironment source original) = role.pattern original := by
    cases role <;> rfl
  rw [unchanged, pattern_of_isReadFrom isRead given reads]

/-- A text that cannot be read is reported as the only fault, unless it ends the reading. -/
theorem read_of_fails {cause : PatternError} (valid : IsValidBut reader source role.field)
    (given : source.find? role.field = some (.text text))
    (fails : Node.readWithin reader.room text = .error cause) :
    read source reader =
      .error (if cause.endsReading then .brokeOff text cause
        else .faults [⟨role.field.name, .badPattern text cause⟩]) := by
  have complained : source.complaint? reader role.field = some (.badPattern text cause) := by
    rw [Source.complaint?, given, Option.bind_some, ProxyRole.complaint?_field,
      pattern_of_fails fails]
    rfl
  rw [read_of_complaint valid complained, ofFaults_badPattern]

end Source

end ForwardedClient.Settings
