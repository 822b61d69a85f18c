import ForwardedClient.Proofs.Journal.Line

/-!
Contract: how long a JSON line is.

Owns: the length of a line, whole or cut, from what JSON takes for its message and for its other
fields; which lines keep to the greatest size.

Does not own: messages that are no text, and lines that cannot be written.
-/

namespace ForwardedClient.Journal

open ForwardedClient.Data
open ForwardedClient.Settings

variable {foreign : Prop}

section Cut

variable {text : String}

theorem textSize_cutMark : textSize cutMark = 15 := by decide +kernel

theorem length_keptText_le (text : String) : (keptText text).toList.length ≤ keptMessageSize := by
  rw [keptText, String.toList_ofList]
  exact List.length_take_le _ _

theorem textSize_keptText_of_isVerbatim
    (verbatim : ∀ char ∈ (keptText text).toList, IsVerbatim char) :
    textSize (keptText text) ≤ keptMessageSize := by
  rw [textSize, sum_charSize_of_isVerbatim verbatim]
  exact length_keptText_le text

theorem textSize_keptText_le (text : String) : textSize (keptText text) ≤ 12 * keptMessageSize := by
  have kept := length_keptText_le text
  have escaped := sum_charSize_le (keptText text).toList
  rw [textSize]
  omega

end Cut

section Lines

variable {environment : Environment} {context : Fields foreign} {record : Record foreign}
variable {depths : Depths} {fields : Fields foreign} {text others : String}

/-- A line is as long as its other fields and its message together, or, where that is too long, as
these and what is left of the message. -/
theorem exists_jsonLine_length (made : payload environment context record depths = .ok fields)
    (said : fields.find? "message" = some (.text text))
    (written :
      (Datum.object (fields.erase "message")).writeJson (depths.line + 1) = .ok others) :
    ∃ line, jsonLine environment context record depths = .ok line ∧
      line.length =
        if others.length + (textSize text + 15) ≤ maxLineSize then
          others.length + (textSize text + 15)
        else others.length + (textSize (keptText text) + 30) := by
  have inhabited := erase_ne_nil made
  have nameSize : textSize "message" = 7 := by decide +kernel
  have distinct := hasDistinctNames_of_payload made
  obtain ⟨whole, isWhole, wholeLength⟩ :=
    Datum.exists_writeJson_of_erase distinct said written inhabited
  rw [nameSize, show 7 + textSize text + 8 = textSize text + 15 by omega] at wholeLength
  rw [← wholeLength]
  by_cases fits : whole.length ≤ maxLineSize
  · rw [if_pos fits]
    exact ⟨whole, jsonLine_of_fits made isWhole fits, rfl⟩
  · rw [if_neg fits]
    have sameOthers : (cutFields fields text).erase "message" = fields.erase "message" :=
      Fields.erase_set _ _ _
    have saidCut : (cutFields fields text).find? "message" =
        some (.text (keptText text ++ cutMark)) := by
      rw [cutFields, Fields.find?_set, if_pos rfl]
    obtain ⟨line, isLine, lineLength⟩ :=
      Datum.exists_writeJson_of_erase (Fields.hasDistinctNames_set distinct) saidCut
        (sameOthers ▸ written) (sameOthers ▸ inhabited)
    have isText : messageText? fields = some text := by
      rw [messageText?, said]
      rfl
    refine ⟨line, (jsonLine_of_long_iff made isWhole fits).mpr ⟨text, isText, isLine⟩, ?_⟩
    rw [lineLength, textSize_append, textSize_cutMark, nameSize]
    omega

/-- A line keeps to the greatest size exactly if its message does as JSON writes it, whole or cut:
the cut counts characters before JSON writes some of them as two, six or twelve. -/
theorem jsonLine_fits_iff (made : payload environment context record depths = .ok fields)
    (said : fields.find? "message" = some (.text text))
    (written :
      (Datum.object (fields.erase "message")).writeJson (depths.line + 1) = .ok others)
    (small : others.length ≤ 900) :
    ∃ line, jsonLine environment context record depths = .ok line ∧
      (line.length ≤ maxLineSize ↔
        others.length + (textSize text + 15) ≤ maxLineSize ∨
          others.length + (textSize (keptText text) + 30) ≤ maxLineSize) ∧
      ((∀ char ∈ (keptText text).toList, IsVerbatim char) → line.length ≤ maxLineSize) ∧
      line.length ≤ 12 * maxLineSize := by
  obtain ⟨line, isLine, lineLength⟩ := exists_jsonLine_length made said written
  have room : 900 + (keptMessageSize + 30) ≤ maxLineSize := by decide
  refine ⟨line, isLine, ?_, ?_, ?_⟩
  · rw [lineLength]
    split
    · rename_i fits
      exact ⟨fun _ => .inl fits, fun _ => fits⟩
    · rename_i long
      exact ⟨.inr, fun either => either.resolve_left long⟩
  · intro verbatim
    have kept := textSize_keptText_of_isVerbatim verbatim
    rw [lineLength]
    split <;> omega
  · have kept := textSize_keptText_le text
    rw [lineLength]
    split <;> omega

end Lines

/-! ### Two long messages -/

section Samples

/-- A record that says a text. -/
def saying (text : String) : Record := Record.ofSource { template := .text text }

/-- What its line shows besides. -/
def othersOfSaying : Fields :=
  [("timestamp", .text (preciseMomentText 0 0)), ("level", .text Level.info.name),
    ("logger", .text "remote_ip"), ("module", .text (moduleOfPath "/app/mod.py")),
    ("function", .null), ("line", .int 10), ("environment", .text "dev")]

theorem exists_payload_saying (text : String) :
    ∃ fields, payload .dev [] (saying text) = .ok fields ∧
      fields.find? "message" = some (.text text) ∧ fields.erase "message" = othersOfSaying := by
  refine ⟨layered .dev [] (saying text) {} (preciseMomentText 0 0) text, ?_, rfl, rfl⟩
  exact payload_eq_ok_iff.mpr ⟨_, _, rfl, rfl, nofun, rfl⟩

theorem exists_writeJson_othersOfSaying :
    ∃ others, (Datum.object othersOfSaying).writeJson (({} : Depths).line + 1) = .ok others ∧
      others.length ≤ 900 := by
  have sized : ((Datum.object othersOfSaying).writeJson 981).toOption.any
      (fun others => decide (others.length ≤ 900)) = true := by decide +kernel
  cases written : (Datum.object othersOfSaying).writeJson 981 with
  | ok others =>
      rw [written] at sized
      exact ⟨others, rfl, of_decide_eq_true sized⟩
  | error _ =>
      rw [written] at sized
      cases sized

def repeated (char : Char) (count : Nat) : String := String.ofList (List.replicate count char)

theorem keptText_repeated {char : Char} {count : Nat} :
    keptText (repeated char count) = repeated char (min keptMessageSize count) := by
  rw [keptText, repeated, String.toList_ofList, List.take_replicate, repeated]

theorem textSize_repeated (char : Char) (count : Nat) :
    textSize (repeated char count) = count * charSize char := by
  rw [repeated, textSize_ofList, List.map_replicate, List.sum_replicate_nat]

/-- A long message of plain letters is cut to a line that fits. -/
theorem letters_fit :
    ∃ line, jsonLine .dev [] (saying (repeated 'x' (maxLineSize + 100))) = .ok line ∧
      line.length ≤ maxLineSize := by
  obtain ⟨fields, made, said, isOthers⟩ :=
    exists_payload_saying (repeated 'x' (maxLineSize + 100))
  obtain ⟨others, written, small⟩ := exists_writeJson_othersOfSaying
  obtain ⟨line, isLine, -, fits, -⟩ := jsonLine_fits_iff made said (isOthers ▸ written) small
  refine ⟨line, isLine, fits fun char member => ?_⟩
  rw [keptText_repeated, repeated, String.toList_ofList] at member
  rw [List.eq_of_mem_replicate member]
  exact ⟨by decide, by decide, by decide, by decide⟩

/-- Half as many quotes as a line may have characters make it too long, and none of them is cut. -/
theorem quotes_exceed :
    ∃ fields others line,
      payload .dev [] (saying (repeated '"' (maxLineSize / 2))) = .ok fields ∧
        fields.find? "message" = some (.text (repeated '"' (maxLineSize / 2))) ∧
        (Datum.object (fields.erase "message")).writeJson (({} : Depths).line + 1) = .ok others ∧
        others.length ≤ 900 ∧
        jsonLine .dev [] (saying (repeated '"' (maxLineSize / 2))) = .ok line ∧
        ¬ line.length ≤ maxLineSize := by
  obtain ⟨fields, made, said, isOthers⟩ := exists_payload_saying (repeated '"' (maxLineSize / 2))
  obtain ⟨others, written, small⟩ := exists_writeJson_othersOfSaying
  obtain ⟨line, isLine, lineLength⟩ := exists_jsonLine_length made said (isOthers ▸ written)
  refine ⟨fields, others, line, made, said, isOthers ▸ written, small, isLine, ?_⟩
  have twice : charSize '"' = 2 := by decide +kernel
  have size : maxLineSize = 262144 := by decide
  have all : min keptMessageSize (maxLineSize / 2) = maxLineSize / 2 := by decide
  rw [keptText_repeated, all, textSize_repeated, twice] at lineLength
  rw [lineLength]
  split <;> omega

end Samples

end ForwardedClient.Journal
