import ForwardedClient.Journal.Line
import ForwardedClient.Proofs.Data.Json

/-!
Contract: JSON lines of the journal, from their fields.

Owns: what a line shows under a name, and where that comes from; that no name stands twice; which
further fields of a record can be told; the ways in which a line is written, cut or not, or fails.

Does not own: how long a line is, and which values make it fail.
-/

namespace ForwardedClient.Journal

open ForwardedClient.Data
open ForwardedClient.Settings

variable {foreign : Prop}

/-! ### Further fields -/

/-- What a line shows of a further field: its value, or that as text if JSON cannot write it. -/
def asShown (depths : Depths) (value : Datum foreign) : Datum foreign :=
  match value.writeJson depths.tried with
  | .ok _ => value
  | .error _ => .text value.display

/-- A further field can be told if JSON can write it, or if it turns out that JSON cannot, which
takes room for the values inside each other, and it can be shown as text. -/
def IsTellable (depths : Depths) (value : Datum foreign) : Prop :=
  ∀ fault, value.writeJson depths.tried = .error fault →
    fault ≠ .nestedTooDeep ∧ value.displayFault? depths.shown = none

section Further

variable {depths : Depths} {value shown : Datum foreign}

theorem tell_eq_ok_iff {room : Nat} {text : String} :
    tell room value = .ok text ↔ value.displayFault? room = none ∧ value.display = text := by
  rw [tell, Datum.displayWithin]
  cases value.displayFault? room with
  | some fault => exact ⟨nofun, nofun⟩
  | none => exact ⟨fun same => ⟨rfl, Except.ok.inj same⟩, fun ⟨_, same⟩ => congrArg Except.ok same⟩

theorem writable_eq_ok_iff :
    writable depths value = .ok shown ↔ IsTellable depths value ∧ asShown depths value = shown := by
  rw [writable, asShown, IsTellable]
  cases value.writeJson depths.tried with
  | ok json => exact ⟨fun same => ⟨nofun, Except.ok.inj same⟩, fun ⟨_, same⟩ => congrArg _ same⟩
  | error fault =>
      by_cases deep : fault = .nestedTooDeep
      · subst deep
        exact ⟨nofun, fun ⟨told, _⟩ => absurd rfl (told _ rfl).1⟩
      · have told : (tell depths.shown value).map Datum.text = .ok shown ↔
            value.displayFault? depths.shown = none ∧ Datum.text value.display = shown := by
          cases isTold : tell depths.shown value with
          | error cause =>
              refine ⟨nofun, fun ⟨showable, _⟩ => ?_⟩
              rw [tell_eq_ok_iff.mpr ⟨showable, rfl⟩] at isTold
              cases isTold
          | ok text =>
              obtain ⟨showable, rfl⟩ := tell_eq_ok_iff.mp isTold
              exact ⟨fun same => ⟨showable, Except.ok.inj same⟩, fun ⟨_, same⟩ => congrArg _ same⟩
        refine Iff.trans (by cases fault <;> first | rfl | exact absurd rfl deep) (told.trans ?_)
        constructor
        · rintro ⟨showable, same⟩
          exact ⟨fun _ same => ⟨Except.error.inj same ▸ deep, showable⟩, same⟩
        · rintro ⟨tellable, same⟩
          exact ⟨(tellable fault rfl).2, same⟩

theorem writableFields_eq_ok_iff {fields shown : Fields foreign} :
    writableFields depths fields = .ok shown ↔
      (∀ field ∈ fields, IsTellable depths field.2) ∧
        (fields.map fun field => (field.1, asShown depths field.2)) = shown := by
  induction fields generalizing shown with
  | nil => simp [writableFields]
  | cons field rest inductionHypothesis =>
      obtain ⟨name, value⟩ := field
      rw [writableFields, List.forall_mem_cons, List.map_cons]
      cases isFirst : writable depths value with
      | error fault =>
          refine ⟨nofun, fun ⟨⟨tellable, _⟩, _⟩ => ?_⟩
          rw [writable_eq_ok_iff.mpr ⟨tellable, rfl⟩] at isFirst
          cases isFirst
      | ok first =>
          obtain ⟨tellable, rfl⟩ := writable_eq_ok_iff.mp isFirst
          cases isRest : writableFields depths rest with
          | error fault =>
              refine ⟨nofun, fun ⟨⟨_, others⟩, _⟩ => ?_⟩
              rw [inductionHypothesis.mpr ⟨others, rfl⟩] at isRest
              cases isRest
          | ok told =>
              obtain ⟨others, rfl⟩ := inductionHypothesis.mp isRest
              exact ⟨fun same => ⟨⟨tellable, others⟩, Except.ok.inj same⟩,
                fun ⟨_, same⟩ => congrArg Except.ok same⟩

end Further

/-! ### Fields of a line -/

/-- What a record says itself. -/
def ownFields (record : Record foreign) (moment message : String) : Fields foreign :=
  [("timestamp", .text moment), ("level", record.levelName), ("logger", record.logger),
    ("message", .text message), ("module", record.moduleName), ("function", record.function),
    ("line", record.line)]

/-- What a line says besides the fields of the request at hand: further fields of the record, the
error, and the environment. -/
def overlaid? (environment : Environment) (record : Record foreign) (depths : Depths)
    (name : String) : Option (Datum foreign) :=
  ((Fields.last? record.extras name).map (asShown depths)).or <|
    if name = "exception" then record.error.map fun error => .text (error.text depths)
    else if name = "environment" then some (.text environment.name)
    else none

/-- What a line shows under a name. -/
def shown? (environment : Environment) (context : Fields foreign) (record : Record foreign)
    (depths : Depths) (moment message name : String) : Option (Datum foreign) :=
  (overlaid? environment record depths name).or <|
    (Fields.last? context name).or ((ownFields record moment message).find? name)

/-- The fields that a record has if its time, its message and its further fields can be told. -/
def layered (environment : Environment) (context : Fields foreign) (record : Record foreign)
    (depths : Depths) (moment message : String) : Fields foreign :=
  let described :=
    ((ownFields record moment message).update context).set "environment" (.text environment.name)
  let reported :=
    match record.error with
    | some error => described.set "exception" (.text (error.text depths))
    | none => described
  reported.update (record.extras.map fun field => (field.1, asShown depths field.2))

section Payload

variable {environment : Environment} {context : Fields foreign} {record : Record foreign}
variable {depths : Depths} {fields : Fields foreign} {moment message : String}

theorem payload_eq_ok_iff :
    payload environment context record depths = .ok fields ↔
      ∃ moment message, record.preciseMoment = .ok moment ∧ record.message depths = .ok message ∧
        (∀ field ∈ record.extras, IsTellable depths field.2) ∧
          layered environment context record depths moment message = fields := by
  rw [payload]
  cases record.preciseMoment with
  | error fault => simp [bind, Except.bind]
  | ok moment =>
      cases record.message depths with
      | error fault => simp [bind, Except.bind]
      | ok message =>
          cases isTold : writableFields depths record.extras with
          | error fault =>
              refine ⟨nofun, fun ⟨_, _, _, _, tellable, _⟩ => ?_⟩
              rw [writableFields_eq_ok_iff.mpr ⟨tellable, rfl⟩] at isTold
              cases isTold
          | ok told =>
              obtain ⟨tellable, rfl⟩ := writableFields_eq_ok_iff.mp isTold
              constructor
              · intro made
                exact ⟨moment, message, rfl, rfl, tellable, Except.ok.inj made⟩
              · rintro ⟨_, _, timed, formatted, -, rfl⟩
                cases timed
                cases formatted
                rfl

theorem hasDistinctNames_layered :
    (layered environment context record depths moment message).HasDistinctNames := by
  have own : (ownFields record moment message).HasDistinctNames := by
    simp only [Fields.HasDistinctNames, ownFields, List.map_cons, List.map_nil]
    decide
  refine Fields.hasDistinctNames_update ?_ _
  have described : (((ownFields record moment message).update context).set "environment"
      (.text environment.name)).HasDistinctNames :=
    Fields.hasDistinctNames_set (Fields.hasDistinctNames_update own context)
  cases record.error with
  | none => exact described
  | some error => exact Fields.hasDistinctNames_set described

theorem find?_layered (name : String) :
    (layered environment context record depths moment message).find? name =
      shown? environment context record depths moment message name := by
  have described (name : String) :
      (((ownFields record moment message).update context).set "environment"
        (.text environment.name)).find? name =
          (if name = "environment" then some (.text environment.name) else none).or
            ((Fields.last? context name).or ((ownFields record moment message).find? name)) := by
    rw [Fields.find?_set, Fields.find?_update]
    by_cases isEnvironment : name = "environment"
    · simp [isEnvironment]
    · simp [isEnvironment, Ne.symm isEnvironment]
  rw [layered, Fields.find?_update, Fields.last?_map, shown?, overlaid?, Option.or_assoc]
  congr 1
  by_cases isException : name = "exception"
  · subst isException
    cases record.error with
    | none => exact described "exception"
    | some error => simp [Fields.find?_set]
  · rw [if_neg isException, ← described]
    cases record.error with
    | none => rfl
    | some error => simp [Fields.find?_set, Ne.symm isException]

/-- Every line has fields besides its message. -/
theorem erase_ne_nil (made : payload environment context record depths = .ok fields) :
    fields.erase "message" ≠ [] := by
  obtain ⟨moment, message, -, -, -, rfl⟩ := payload_eq_ok_iff.mp made
  have timed : ∃ value,
      (layered environment context record depths moment message).find? "timestamp" =
        some value := by
    rw [find?_layered, shown?]
    have own : (ownFields record moment message).find? "timestamp" = some (.text moment) := rfl
    rw [own]
    cases overlaid? environment record depths "timestamp" with
    | some value => exact ⟨value, rfl⟩
    | none =>
        cases Fields.last? context "timestamp" with
        | some value => exact ⟨value, rfl⟩
        | none => exact ⟨.text moment, rfl⟩
  obtain ⟨value, found⟩ := timed
  refine List.ne_nil_of_mem (a := ("timestamp", value)) (List.mem_filter.mpr ⟨?_, by simp⟩)
  exact Fields.mem_of_find? found

end Payload

/-! ### Ways to a line -/

/-- What is left of a text that is cut, without the mark. -/
def keptText (text : String) : String := String.ofList (text.toList.take keptMessageSize)

/-- The fields of a line whose message is cut. -/
def cutFields (fields : Fields foreign) (text : String) : Fields foreign :=
  fields.set "message" (.text (keptText text ++ cutMark))

/-- What stands under the message of a line, if that is a text. -/
def messageText? (fields : Fields foreign) : Option String :=
  (fields.find? "message").bind Datum.text?

section Ways

variable {environment : Environment} {context : Fields foreign} {record : Record foreign}
variable {depths : Depths} {fields : Fields foreign} {whole line text : String}

theorem writeFields_eq_ok_iff :
    writeFields fields depths = .ok line ↔
      (Datum.object fields).writeJson (depths.line + 1) = .ok line := by
  rw [writeFields]
  cases (Datum.object fields).writeJson (depths.line + 1) with
  | error fault => exact ⟨nofun, nofun⟩
  | ok whole =>
      constructor <;> intro same <;> exact congrArg _ (Except.ok.inj same)

theorem jsonLine_of_payload (made : payload environment context record depths = .ok fields) :
    jsonLine environment context record depths =
      (writeFields fields depths).bind fun line =>
        if line.length ≤ maxLineSize then .ok line
        else
          (cutMessage ((fields.find? "message").getD .null)).bind fun message =>
            writeFields (fields.set "message" message) depths := by
  rw [jsonLine, made]
  rfl

theorem exists_payload_of_jsonLine
    (returned : jsonLine environment context record depths = .ok line) :
    ∃ fields, payload environment context record depths = .ok fields := by
  cases made : payload environment context record depths with
  | error fault =>
      rw [jsonLine, made] at returned
      cases returned
  | ok fields => exact ⟨fields, rfl⟩

theorem isWritten_of_jsonLine (made : payload environment context record depths = .ok fields)
    (returned : jsonLine environment context record depths = .ok line) :
    ∃ whole, (Datum.object fields).writeJson (depths.line + 1) = .ok whole := by
  rw [jsonLine_of_payload made] at returned
  cases written : writeFields fields depths with
  | error fault =>
      rw [written] at returned
      cases returned
  | ok whole => exact ⟨whole, writeFields_eq_ok_iff.mp written⟩

theorem jsonLine_of_fits (made : payload environment context record depths = .ok fields)
    (written : (Datum.object fields).writeJson (depths.line + 1) = .ok line)
    (fits : line.length ≤ maxLineSize) :
    jsonLine environment context record depths = .ok line := by
  rw [jsonLine_of_payload made, writeFields_eq_ok_iff.mpr written]
  exact if_pos fits

theorem hasDistinctNames_of_payload
    (made : payload environment context record depths = .ok fields) :
    fields.HasDistinctNames := by
  obtain ⟨moment, message, -, -, -, rfl⟩ := payload_eq_ok_iff.mp made
  exact hasDistinctNames_layered

/-- Cutting a message keeps a line writable. -/
theorem exists_writeJson_cutFields (made : payload environment context record depths = .ok fields)
    (written : (Datum.object fields).writeJson (depths.line + 1) = .ok line) (text : String) :
    ∃ cut, (Datum.object (cutFields fields text)).writeJson (depths.line + 1) = .ok cut := by
  have distinct := hasDistinctNames_of_payload made
  have parts := (Datum.isWritten_object_iff_find? distinct).mp ⟨line, written⟩
  refine (Datum.isWritten_object_iff_find? (Fields.hasDistinctNames_set distinct)).mpr ?_
  intro name value found
  rw [Fields.find?_set] at found
  split at found
  · rw [← Option.some.inj found]
    exact Datum.isWritten_text
  · exact parts name value found

theorem cutMessage_eq_ok_iff {message cut : Datum foreign} :
    cutMessage message = .ok cut ↔
      ∃ text, message.text? = some text ∧ .text (keptText text ++ cutMark) = cut := by
  rw [cutMessage]
  cases message.text? with
  | some text =>
      constructor
      · intro same
        exact ⟨text, rfl, Except.ok.inj same⟩
      · rintro ⟨_, same, rfl⟩
        cases same
        rfl
  | none =>
      refine ⟨fun same => ?_, nofun⟩
      revert same
      dsimp only
      split <;> nofun

/-- Of a line that is too long the message is cut, and only text can be cut. -/
theorem jsonLine_of_long_iff (made : payload environment context record depths = .ok fields)
    (written : (Datum.object fields).writeJson (depths.line + 1) = .ok whole)
    (long : ¬ whole.length ≤ maxLineSize) :
    jsonLine environment context record depths = .ok line ↔
      ∃ text, messageText? fields = some text ∧
        (Datum.object (cutFields fields text)).writeJson (depths.line + 1) = .ok line := by
  have unfolded : jsonLine environment context record depths =
      (cutMessage ((fields.find? "message").getD .null)).bind fun message =>
        writeFields (fields.set "message" message) depths := by
    rw [jsonLine_of_payload made, writeFields_eq_ok_iff.mpr written]
    exact if_neg long
  have sameText : ((fields.find? "message").getD .null).text? = messageText? fields := by
    rw [messageText?]
    cases fields.find? "message" <;> rfl
  rw [unfolded]
  cases cut : cutMessage ((fields.find? "message").getD .null) with
  | error fault =>
      refine ⟨nofun, fun ⟨text, said, _⟩ => ?_⟩
      rw [cutMessage_eq_ok_iff.mpr ⟨text, sameText.trans said, rfl⟩] at cut
      cases cut
  | ok message =>
      obtain ⟨text, said, rfl⟩ := cutMessage_eq_ok_iff.mp cut
      rw [sameText] at said
      have writes : writeFields (cutFields fields text) depths = .ok line ↔ _ :=
        writeFields_eq_ok_iff
      refine writes.trans ?_
      constructor
      · intro isLine
        exact ⟨text, said, isLine⟩
      · rintro ⟨other, same, isLine⟩
        rw [said] at same
        cases same
        exact isLine

theorem exists_jsonLine_iff (made : payload environment context record depths = .ok fields) :
    (∃ line, jsonLine environment context record depths = .ok line) ↔
      ∃ whole, (Datum.object fields).writeJson (depths.line + 1) = .ok whole ∧
        (maxLineSize < whole.length → ∃ text, messageText? fields = some text) := by
  constructor
  · rintro ⟨line, returned⟩
    obtain ⟨whole, written⟩ := isWritten_of_jsonLine made returned
    refine ⟨whole, written, fun long => ?_⟩
    obtain ⟨text, said, -⟩ :=
      (jsonLine_of_long_iff made written (Nat.not_le.mpr long)).mp returned
    exact ⟨text, said⟩
  · rintro ⟨whole, written, sayable⟩
    by_cases fits : whole.length ≤ maxLineSize
    · exact ⟨whole, jsonLine_of_fits made written fits⟩
    · obtain ⟨text, said⟩ := sayable (Nat.not_le.mp fits)
      obtain ⟨cut, isCut⟩ := exists_writeJson_cutFields made written text
      exact ⟨cut, (jsonLine_of_long_iff made written fits).mpr ⟨text, said, isCut⟩⟩

/-- A line is the JSON of its fields, or of these with the message cut. -/
theorem writeJson_of_jsonLine (made : payload environment context record depths = .ok fields)
    (returned : jsonLine environment context record depths = .ok line) :
    (Datum.object fields).writeJson (depths.line + 1) = .ok line ∨
      ∃ text, messageText? fields = some text ∧
        (Datum.object (cutFields fields text)).writeJson (depths.line + 1) = .ok line := by
  obtain ⟨whole, written⟩ := isWritten_of_jsonLine made returned
  by_cases fits : whole.length ≤ maxLineSize
  · rw [jsonLine_of_fits made written fits] at returned
    exact .inl (Except.ok.inj returned ▸ written)
  · exact .inr ((jsonLine_of_long_iff made written fits).mp returned)

end Ways

end ForwardedClient.Journal
