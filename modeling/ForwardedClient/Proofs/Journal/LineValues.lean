import ForwardedClient.Middleware.World
import ForwardedClient.Proofs.Journal.Line

/-!
Contract: which values a JSON line may show.

Owns: the fields of the request at hand after a series of calls; when a line is written, in terms of
these fields and of the further fields of its record, and what it then shows.

Does not own: the size of a line.
-/

namespace ForwardedClient.Journal

open ForwardedClient.Data
open ForwardedClient.Data.Datum
open ForwardedClient.Settings

variable {foreign : Prop}

/-! ### Fields of the request at hand -/

/-- A call that changes the fields of the request at hand. -/
inductive ContextCall (foreign : Prop) where
  | add (fields : Fields foreign)
  | clear

def ContextCall.apply (context : Fields foreign) : ContextCall foreign → Fields foreign
  | .add fields => context.update fields
  | .clear => []

/-- The fields of the request at hand after a series of calls. -/
def contextAfter (calls : List (ContextCall foreign)) : Fields foreign :=
  calls.foldl ContextCall.apply []

/-- The handling of a request makes these calls. -/
theorem context_addContext (world : Middleware.World) (fields : Fields) :
    (world.addContext fields).context = ContextCall.apply world.context (.add fields) := rfl

theorem context_clearContext (world : Middleware.World) :
    world.clearContext.context = ContextCall.apply world.context .clear := rfl

theorem hasDistinctNames_apply {context : Fields foreign} (distinct : context.HasDistinctNames)
    (call : ContextCall foreign) : (call.apply context).HasDistinctNames := by
  cases call with
  | add fields => exact Fields.hasDistinctNames_update distinct fields
  | clear => exact List.nodup_nil

theorem hasDistinctNames_contextAfter (calls : List (ContextCall foreign)) :
    (contextAfter calls).HasDistinctNames := by
  have kept : ∀ context : Fields foreign, context.HasDistinctNames →
      (calls.foldl ContextCall.apply context).HasDistinctNames := by
    induction calls with
    | nil => exact fun context distinct => distinct
    | cons call rest inductionHypothesis =>
        exact fun context distinct => inductionHypothesis _ (hasDistinctNames_apply distinct call)
  exact kept [] List.nodup_nil

/-! ### Records -/

/-- The further fields of a record that lines show. -/
def RecordSource.further (source : RecordSource foreign) : Fields foreign :=
  source.extras.filter fun field => !Record.hiddenAttributes.contains field.1

namespace Record

/-- The names of what a record says itself, which further fields cannot have. -/
def attributes : List String :=
  ["name", "msg", "args", "levelname", "levelno", "module", "funcName", "lineno", "created",
    "msecs", "exc_text", "stack_info"]

theorem set_of_not_attribute {record : Record foreign} {name : String} {value : Datum foreign}
    (further : name ∉ attributes) :
    record.set name value =
      if hiddenAttributes.contains name then record
      else { record with extras := record.extras.set name value } := by
  rw [set]
  all_goals
    rintro rfl
    exact further (by decide)

theorem foldl_set_of_not_attribute {further : Fields foreign} (record : Record foreign)
    (named : ∀ field ∈ further, field.1 ∉ attributes) :
    further.foldl (fun record field => record.set field.1 field.2) record =
      { record with
        extras := record.extras.update
          (further.filter fun field => !hiddenAttributes.contains field.1) } := by
  induction further generalizing record with
  | nil => rfl
  | cons field rest inductionHypothesis =>
      obtain ⟨first, others⟩ := List.forall_mem_cons.mp named
      rw [List.foldl_cons, set_of_not_attribute first, inductionHypothesis _ others]
      by_cases hidden : hiddenAttributes.contains field.1 = true
      · rw [if_pos hidden, List.filter_cons_of_neg (by rw [hidden]; decide)]
      · rw [if_neg hidden, List.filter_cons_of_pos (by simpa using hidden)]
        rfl

section Source

variable {source : RecordSource foreign} (named : ∀ field ∈ source.extras, field.1 ∉ attributes)
include named

theorem extras_ofSource : (ofSource source).extras = Fields.update [] source.further := by
  rw [ofSource, foldl_set_of_not_attribute _ named]
  rfl

theorem error_ofSource : (ofSource source).error = source.error := by
  rw [ofSource, foldl_set_of_not_attribute _ named]

theorem preciseMoment_ofSource :
    (ofSource source).preciseMoment =
      .ok (preciseMomentText (source.moment.fdiv 1000) (source.moment.fmod 1000)) := by
  rw [ofSource, foldl_set_of_not_attribute _ named]
  rfl

theorem last?_extras_ofSource (name : String) :
    Fields.last? (ofSource source).extras name = Fields.last? source.further name := by
  have empty : Fields.HasDistinctNames ([] : Fields foreign) := List.nodup_nil
  have distinct := Fields.hasDistinctNames_update empty source.further
  rw [extras_ofSource named, Fields.last?_eq_find? distinct, Fields.find?_update]
  exact Option.or_none

/-- Of what a record says itself only the number of its line may have too many digits. -/
theorem isWritten_ownFields_ofSource {room : Nat} {moment message name : String}
    {value : Datum foreign}
    (said : (ownFields (ofSource source) moment message).find? name = some value) :
    IsWritten room value ∨ name = "line" ∧ value = .int source.line := by
  have member := Fields.mem_of_find? said
  rw [ofSource, foldl_set_of_not_attribute _ named] at member
  simp only [ownFields, List.mem_cons, Prod.mk.injEq, List.not_mem_nil, or_false] at member
  rcases member with ⟨-, rfl⟩ | ⟨-, rfl⟩ | ⟨-, rfl⟩ | ⟨-, rfl⟩ | ⟨-, rfl⟩ | ⟨-, rfl⟩ | ⟨rfl, rfl⟩
  · exact .inl isWritten_text
  · exact .inl isWritten_text
  · exact .inl isWritten_text
  · exact .inl isWritten_text
  · exact .inl isWritten_text
  · refine .inl ?_
    cases source.function with
    | none => exact ⟨"null", by rw [Option.map_none, Option.getD_none, writeJson]⟩
    | some function => exact isWritten_text
  · exact .inr ⟨rfl, rfl⟩

theorem find?_ownFields_line_ofSource (moment message : String) :
    (ownFields (ofSource source) moment message).find? "line" = some (.int source.line) := by
  rw [ofSource, foldl_set_of_not_attribute _ named]
  rfl

end Source

end Record

/-! ### Lines -/

section Lines

variable {environment : Environment} {context : Fields foreign} {record : Record foreign}
variable {depths : Depths} {moment message name : String} {value : Datum foreign}

/-- What a line shows of a further field can be written in it. -/
theorem isWritten_asShown : IsWritten depths.line (asShown depths value) := by
  rw [asShown]
  cases written : value.writeJson depths.tried with
  | ok json => exact IsWritten.of_le ⟨json, written⟩ depths.tried_le_line
  | error fault => exact isWritten_text

theorem isWritten_overlaid (said : overlaid? environment record depths name = some value) :
    IsWritten depths.line value := by
  rw [overlaid?] at said
  rcases Option.or_eq_some_iff.mp said with further | ⟨-, fixed⟩
  · obtain ⟨original, -, rfl⟩ := Option.map_eq_some_iff.mp further
    exact isWritten_asShown
  · split at fixed
    · obtain ⟨error, -, rfl⟩ := Option.map_eq_some_iff.mp fixed
      exact isWritten_text
    · split at fixed
      · rw [← Option.some.inj fixed]
        exact isWritten_text
      · cases fixed

/-- The fields of the request at hand and what the record says itself are all that can keep a line
from being written. -/
theorem isWritten_layered_iff (distinct : context.HasDistinctNames) :
    IsWritten (depths.line + 1)
        (.object (layered environment context record depths moment message)) ↔
      (∀ name value, context.find? name = some value →
        overlaid? environment record depths name = none → IsWritten depths.line value) ∧
      ∀ name value, (ownFields record moment message).find? name = some value →
        context.find? name = none → overlaid? environment record depths name = none →
          IsWritten depths.line value := by
  rw [isWritten_object_iff_find? hasDistinctNames_layered]
  simp only [find?_layered, shown?, Fields.last?_eq_find? distinct]
  constructor
  · intro all
    refine ⟨fun name value ofRequest uncovered => all name value ?_,
      fun name value own absent uncovered => all name value ?_⟩
    · rw [uncovered, ofRequest]
      rfl
    · rw [uncovered, absent, own]
      rfl
  · rintro ⟨ofRequest, own⟩ name value found
    rcases Option.or_eq_some_iff.mp found with overlaid | ⟨uncovered, found⟩
    · exact isWritten_overlaid overlaid
    · rcases Option.or_eq_some_iff.mp found with found | ⟨absent, found⟩
      · exact ofRequest name value found uncovered
      · exact own name value found absent uncovered

end Lines

/-- Names under which a line shows a further field, the environment or the error of a record, also
where the request at hand has a field of that name. -/
def IsCovered (source : RecordSource foreign) (name : String) : Prop :=
  name ∈ source.further.map (·.1) ∨ name = "environment" ∨
    name = "exception" ∧ source.error.isSome = true

section Source

variable {source : RecordSource foreign} {name : String}
variable (named : ∀ field ∈ source.extras, field.1 ∉ Record.attributes)
include named

theorem overlaid?_ofSource_eq_none_iff (environment : Environment) (depths : Depths) :
    overlaid? environment (Record.ofSource source) depths name = none ↔
      ¬ IsCovered source name := by
  rw [overlaid?, Option.or_eq_none_iff, Option.map_eq_none_iff,
    Record.last?_extras_ofSource named, Fields.last?_eq_none_iff, Record.error_ofSource named,
    IsCovered, not_or]
  refine and_congr_right fun _ => ?_
  by_cases isException : name = "exception"
  · subst isException
    cases source.error <;> simp
  · by_cases isEnvironment : name = "environment" <;> simp [isException, isEnvironment]

/-- A record can tell its further fields if it can tell the last one under each name. -/
theorem forall_isTellable_ofSource_iff (depths : Depths) :
    (∀ field ∈ (Record.ofSource source).extras, IsTellable depths field.2) ↔
      ∀ name value, Fields.last? source.further name = some value → IsTellable depths value := by
  have distinct : (Record.ofSource source).extras.HasDistinctNames := by
    rw [Record.extras_ofSource named]
    have empty : Fields.HasDistinctNames ([] : Fields foreign) := List.nodup_nil
    exact Fields.hasDistinctNames_update empty _
  have found (name : String) :
      (Record.ofSource source).extras.find? name = Fields.last? source.further name := by
    rw [← Fields.last?_eq_find? distinct, Record.last?_extras_ofSource named]
  constructor
  · intro all name value further
    exact all (name, value) (Fields.mem_of_find? ((found name).trans further))
  · rintro all ⟨name, value⟩ member
    exact all name value ((found name).symm.trans (Fields.find?_of_mem distinct member))

theorem isWritten_layered_ofSource_iff (environment : Environment) {context : Fields foreign}
    (distinct : context.HasDistinctNames) (depths : Depths) (moment message : String) :
    IsWritten (depths.line + 1)
        (.object (layered environment context (Record.ofSource source) depths moment message)) ↔
      (∀ name value, context.find? name = some value → ¬ IsCovered source name →
        ¬ IsUnwritable depths.line value) ∧
      (context.find? "line" = none → ¬ IsCovered source "line" → isLong source.line = false) := by
  rw [isWritten_layered_iff distinct]
  simp only [overlaid?_ofSource_eq_none_iff named, isWritten_iff]
  refine and_congr_right fun _ => ?_
  have short : isLong source.line = false ↔
      ¬ IsUnwritable depths.line (.int source.line : Datum foreign) := by
    rw [isUnwritable_long_iff, Bool.not_eq_true]
  constructor
  · intro own absent uncovered
    exact short.mpr (own _ _ (Record.find?_ownFields_line_ofSource named moment message) absent
      uncovered)
  · intro line name value said absent uncovered
    have told : IsWritten depths.line value ∨ name = "line" ∧ value = .int source.line :=
      Record.isWritten_ownFields_ofSource named said
    rcases told with written | ⟨rfl, rfl⟩
    · exact (isWritten_iff _ _).mp written
    · exact short.mp (line absent uncovered)

/-- A line is returned exactly if every further field can be told, if JSON can write every field of
the request at hand that the line shows and the number of the line of code, and if what stands under
its message is text, should it be too long. It is one object, which shows further fields as text
where JSON cannot write them. -/
theorem jsonLine_returns_iff (environment : Environment) (calls : List (ContextCall foreign))
    (depths : Depths) {message : String}
    (formatted : (Record.ofSource source).message depths = .ok message) :
    ∃ (moment : String) (fields : Fields foreign),
      (Record.ofSource source).preciseMoment = .ok moment ∧
      fields.HasDistinctNames ∧
      (∀ name, fields.find? name =
        shown? environment (contextAfter calls) (Record.ofSource source) depths moment message
          name) ∧
      (∀ name value, Fields.last? source.further name = some value →
        fields.find? name = some (asShown depths value)) ∧
      ((∃ line, jsonLine environment (contextAfter calls) (Record.ofSource source) depths =
          .ok line) ↔
        (∀ name value, Fields.last? source.further name = some value → IsTellable depths value) ∧
        (∀ name value, (contextAfter calls).find? name = some value →
          ¬ IsCovered source name → ¬ IsUnwritable depths.line value) ∧
        ((contextAfter calls).find? "line" = none → ¬ IsCovered source "line" →
          isLong source.line = false) ∧
        (∀ whole, (Datum.object fields).writeJson (depths.line + 1) = .ok whole →
          maxLineSize < whole.length → ∃ text, messageText? fields = some text)) ∧
      ∀ line,
        jsonLine environment (contextAfter calls) (Record.ofSource source) depths = .ok line →
          (Datum.object fields).writeJson (depths.line + 1) = .ok line ∨
            ∃ text, messageText? fields = some text ∧
              (Datum.object (cutFields fields text)).writeJson (depths.line + 1) = .ok line := by
  obtain ⟨moment, timed⟩ : ∃ moment, (Record.ofSource source).preciseMoment = .ok moment :=
    ⟨_, Record.preciseMoment_ofSource named⟩
  have made : (∀ field ∈ (Record.ofSource source).extras, IsTellable depths field.2) →
      payload environment (contextAfter calls) (Record.ofSource source) depths =
        .ok (layered environment (contextAfter calls) (Record.ofSource source) depths moment
          message) :=
    fun tellable => payload_eq_ok_iff.mpr ⟨_, _, timed, formatted, tellable, rfl⟩
  have tellable_of_returned : ∀ line,
      jsonLine environment (contextAfter calls) (Record.ofSource source) depths = .ok line →
        ∀ field ∈ (Record.ofSource source).extras, IsTellable depths field.2 := by
    intro line returned
    obtain ⟨fields, isPayload⟩ := exists_payload_of_jsonLine returned
    obtain ⟨_, _, -, -, tellable, -⟩ := payload_eq_ok_iff.mp isPayload
    exact tellable
  refine ⟨moment, _, timed, hasDistinctNames_layered, fun name => find?_layered name, ?_, ?_,
    fun line returned => writeJson_of_jsonLine (made (tellable_of_returned line returned)) returned⟩
  · intro name value further
    rw [find?_layered, shown?, overlaid?, Record.last?_extras_ofSource named, further]
    rfl
  · have tells := forall_isTellable_ofSource_iff named depths
    have writes := isWritten_layered_ofSource_iff named environment
      (hasDistinctNames_contextAfter calls) depths moment message
    constructor
    · rintro ⟨line, returned⟩
      have tellable := tellable_of_returned line returned
      obtain ⟨whole, written, sayable⟩ := (exists_jsonLine_iff (made tellable)).mp ⟨line, returned⟩
      obtain ⟨ofRequest, lineNumber⟩ := writes.mp ⟨whole, written⟩
      refine ⟨tells.mp tellable, ofRequest, lineNumber, fun other same => ?_⟩
      rw [written] at same
      exact Except.ok.inj same ▸ sayable
    · rintro ⟨tellable, ofRequest, lineNumber, sayable⟩
      obtain ⟨whole, written⟩ := writes.mpr ⟨ofRequest, lineNumber⟩
      exact (exists_jsonLine_iff (made (tells.mpr tellable))).mpr
        ⟨whole, written, sayable whole written⟩

end Source

section Samples

/-- A record with bytes and a set in its further fields. -/
def describing : RecordSource True :=
  { template := .text "x"
    extras := [("peer", .list [.bytes "ab"]), ("roles", .set trivial false [.text "ops"])] }

/-- Further fields that JSON cannot write do not keep a line from being returned. -/
theorem bytes_in_further_field_shown :
    ∃ line, jsonLine .dev (contextAfter [.add [("remote_addr", .text "203.0.113.7")]])
      (Record.ofSource describing) = .ok line := by
  have named : ∀ field ∈ describing.extras, field.1 ∉ Record.attributes := by decide
  have formatted : (Record.ofSource describing).message {} = .ok "x" := rfl
  obtain ⟨moment, fields, -, -, shown, -, returns, -⟩ :=
    jsonLine_returns_iff named .dev [.add [("remote_addr", .text "203.0.113.7")]] {} formatted
  refine returns.mpr ⟨fun name value found => ?_, fun name value found _ => ?_,
    fun _ _ => by decide, fun _ _ _ => ⟨"x", ?_⟩⟩
  · have further : (name, value) ∈ describing.extras :=
      (List.mem_filter.mp (List.mem_reverse.mp (Fields.mem_of_find? found))).1
    rcases List.mem_cons.mp further with same | later
    · cases same
      rintro fault ⟨⟩
      exact ⟨nofun, rfl⟩
    · cases List.mem_singleton.mp later
      rintro fault ⟨⟩
      exact ⟨nofun, rfl⟩
  · have member : (name, value) ∈ [("remote_addr", Datum.text "203.0.113.7")] :=
      Fields.mem_of_find? found
    cases List.mem_singleton.mp member
    exact (isWritten_iff _ _).mp isWritten_text
  · rw [messageText?, shown]
    rfl

/-- A record without further fields. -/
def plainSource : RecordSource True := { template := .text "x" }

/-- Bytes in a field of the request at hand do. -/
theorem bytes_in_context_fail :
    (Record.ofSource plainSource).message {} = .ok "x" ∧
      ∀ line, jsonLine .dev (contextAfter [.add [("token", .bytes "ab")]])
        (Record.ofSource plainSource) ≠ .ok line := by
  refine ⟨rfl, fun line returned => ?_⟩
  have made : payload .dev (contextAfter [.add [("token", .bytes "ab")]])
      (Record.ofSource plainSource) = .ok _ :=
    payload_eq_ok_iff.mpr ⟨_, "x", rfl, rfl, nofun, rfl⟩
  have parts := (isWritten_object_iff_find? hasDistinctNames_layered).mp
    (isWritten_of_jsonLine made returned)
  exact (isWritten_iff _ _).mp (parts "token" (.bytes "ab") rfl) .bytes

end Samples

end ForwardedClient.Journal
