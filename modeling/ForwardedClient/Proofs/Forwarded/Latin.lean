import ForwardedClient.Proofs.Forwarded.DirectiveMap
import ForwardedClient.Proofs.Forwarded.Node
import ForwardedClient.Proofs.Text.Latin

/-!
Contract: a Forwarded header that came over the wire can go back onto it.

Owns: the bytes that are kept from the values of a header to the directives that are read from
them and back to the header that is written.

Does not own: addresses that come from elsewhere; they are in the header exactly as far as they
are bytes themselves.
-/

namespace ForwardedClient.Forwarded

open ForwardedClient.Address
open ForwardedClient.Journal
open ForwardedClient.Text

/-! ### Reading -/

theorem isLatin_of_mem_pairs {value : String} (latin : IsLatin value) {pair : String × String}
    (member : pair ∈ pairs value) : IsLatin pair.2 :=
  fun char inside => latin char (mem_of_mem_pairs member inside).1

theorem isLatin_unbracket {value : String} (latin : IsLatin value) :
    IsLatin (unbracket value).1 := by
  intro char member
  rcases mem_unbracket member with inside | colon
  · exact latin char inside
  · exact colon ▸ by decide

/-- What a pair contributes has a known name, and is a text of bytes if the pair was. -/
theorem known_of_normalize {key value directive spelled : String} (latin : IsLatin value)
    (contributed : (normalize key value).1 = some (directive, spelled)) :
    isKnown directive = true ∧ IsLatin spelled := by
  unfold normalize at contributed
  simp only at contributed
  split at contributed
  · simp at contributed
  · rename_i recognised
    have known : isKnown (lower key) = true := by
      simp only [Bool.or_eq_true, not_or, Bool.not_eq_true', Bool.not_eq_false] at recognised
      exact recognised.1
    have spelling : IsLatin (if lower key == "for" && value.toList.head? == some '[' then
        unbracket value else (value, [])).1 := by
      split
      · exact isLatin_unbracket latin
      · exact latin
    -- All branches record the same word, so it gets a name before they are split.
    generalize (if lower key == "for" && value.toList.head? == some '[' then
      unbracket value else (value, [])) = word at contributed spelling
    split at contributed
    · split at contributed
      · simp at contributed
      · injection contributed with same
        injection same with first second
        rw [← first, ← second]
        exact ⟨known, spelling⟩
    · split at contributed
      · injection contributed with same
        injection same with first second
        rw [← first, ← second]
        exact ⟨known, spelling⟩
      · simp at contributed

theorem isLatin_of_isKnown {directive : String} (known : isKnown directive = true) :
    IsLatin directive := by
  simp only [isKnown, Bool.or_eq_true, beq_iff_eq] at known
  rcases known with ((same | same) | same) | same <;> subst same <;> decide

namespace DirectiveMap

/-- A map of known directives whose values are texts of bytes. -/
def IsWire (map : DirectiveMap) : Prop :=
  ∀ entry ∈ map.entries, isKnown entry.1 = true ∧ ∀ value ∈ entry.2, IsLatin value

theorem isWire_add {map : DirectiveMap} (wire : map.IsWire) {directive value : String}
    (known : isKnown directive = true) (latin : IsLatin value) :
    (map.add directive value).IsWire := by
  intro entry member
  have changed : ∀ old : List String, (∀ value ∈ old, IsLatin value) →
      ∀ word ∈ old ++ [value], IsLatin word := by
    intro old oldLatin word inside
    rcases List.mem_append.mp inside with earlier | last
    · exact oldLatin word earlier
    · rw [List.mem_singleton.mp last]
      exact latin
  rcases mem_modifyEntry member with kept | ⟨named, fresh | ⟨old, place, -, same⟩⟩
  · exact wire entry kept
  · rw [named, fresh]
    exact ⟨known, changed [] (by simp)⟩
  · rw [named, same]
    exact ⟨known, changed old.2 (wire old place).2⟩

theorem known_replace {map : DirectiveMap} (named : ∀ entry ∈ map.entries, isKnown entry.1 = true)
    {directive : String} (known : isKnown directive = true) (others : List String) :
    ∀ entry ∈ (map.replace directive others).entries, isKnown entry.1 = true := by
  intro entry member
  rcases mem_replace member with kept | same
  · exact named entry kept
  · rw [same]
    exact known

theorem isWire_replace {map : DirectiveMap} (wire : map.IsWire) {directive : String}
    (known : isKnown directive = true) {others : List String}
    (latin : ∀ value ∈ others, IsLatin value) : (map.replace directive others).IsWire := by
  intro entry member
  rcases mem_replace member with kept | same
  · exact wire entry kept
  · rw [same]
    exact ⟨known, latin⟩

theorem isLatin_of_mem_values {map : DirectiveMap} (wire : map.IsWire) {name value : String}
    (member : value ∈ map.values name) : IsLatin value := by
  obtain ⟨entry, place, -, inside⟩ := mem_entries_of_mem_values member
  exact (wire entry place).2 value inside

theorem isWire_addPair {state : DirectiveMap × List Report} (wire : state.1.IsWire)
    {pair : String × String} (latin : IsLatin pair.2) : (addPair state pair).1.IsWire := by
  unfold addPair
  cases contributed : normalize pair.1 pair.2 with
  | mk entry reports =>
      cases entry with
      | none => exact wire
      | some entry =>
          have made : (normalize pair.1 pair.2).1 = some (entry.1, entry.2) := by rw [contributed]
          obtain ⟨known, valueLatin⟩ := known_of_normalize latin made
          exact isWire_add wire known valueLatin

theorem isWire_foldl_addPair {state : DirectiveMap × List Report} (wire : state.1.IsWire)
    {raw : List (String × String)} (latin : ∀ pair ∈ raw, IsLatin pair.2) :
    (raw.foldl addPair state).1.IsWire := by
  induction raw generalizing state with
  | nil => exact wire
  | cons pair rest inductionHypothesis =>
      exact inductionHypothesis (isWire_addPair wire (latin pair List.mem_cons_self))
        fun later member => latin later (List.mem_cons_of_mem pair member)

/-- Values that came over the wire are read into a map that can go back onto it. -/
theorem isWire_read {values : List String} (latin : ∀ value ∈ values, IsLatin value) :
    (read values).1.IsWire := by
  refine isWire_foldl_addPair (fun entry member => absurd member List.not_mem_nil) ?_
  intro pair member
  obtain ⟨value, isValue, inside⟩ := List.mem_flatMap.mp member
  exact isLatin_of_mem_pairs (latin value isValue) inside

end DirectiveMap

/-! ### Writing -/

/-- The two sides of the last colon make up the text, and both are texts of bytes if it is. -/
theorem isLatin_splitAtLastColon {value : String} :
    (IsLatin (splitAtLastColon value).1 ∧ IsLatin (splitAtLastColon value).2) ↔
      IsLatin value := by
  unfold splitAtLastColon
  cases cut : partitionAt (· == ':') value.toList.reverse with
  | mk last before =>
      cases before with
      | none =>
          obtain ⟨whole, -⟩ := partitionAt_none cut
          simp [whole, IsLatin]
      | some before =>
          -- The text is cut from behind: `before` is what stands left of the last colon.
          obtain ⟨colon, isColon, split, -⟩ := partitionAt_some cut
          have same : colon = ':' := by simpa using isColon
          have members : ∀ char, char ∈ value.toList ↔ char ∈ last ++ colon :: before := by
            intro char
            rw [← split, List.mem_reverse]
          simp only [IsLatin, String.toList_ofList, Option.getD_some, List.mem_reverse, members,
            List.mem_append, List.mem_cons]
          constructor
          · rintro ⟨beforeLatin, lastLatin⟩ char (inLast | isSame | inBefore)
            · exact lastLatin char inLast
            · rw [isSame, same]
              decide
            · exact beforeLatin char inBefore
          · intro latin
            exact ⟨fun char member => latin char (Or.inr (Or.inr member)),
              fun char member => latin char (Or.inl member)⟩

theorem isLatin_bracket {value : String} : IsLatin (bracket value) ↔ IsLatin value := by
  have opening : IsLatin "[" := by decide
  have closing : IsLatin "]" := by decide
  have between : IsLatin "]:" := by decide
  have parts : IsLatin ("[" ++ (splitAtLastColon value).1 ++ "]:" ++ (splitAtLastColon value).2) ↔
      IsLatin value := by
    refine Iff.trans ?_ isLatin_splitAtLastColon
    simp only [isLatin_append, opening, between, true_and, and_true]
  unfold bracket
  simp only
  split
  · exact parts
  · split
    · simp only [isLatin_append, opening, closing, true_and, and_true]
    · exact parts

theorem isLatin_quoteNode {value : String} : IsLatin (quoteNode value) ↔ IsLatin value := by
  have quote : IsLatin "\"" := by decide
  unfold quoteNode
  split
  · simp only [isLatin_append, quote, true_and, and_true]
  · split
    · exact Iff.rfl
    · simp only [isLatin_append, quote, true_and, and_true, isLatin_bracket]

theorem isLatin_writePair {name value : String} (named : IsLatin name) :
    IsLatin (writePair name value) ↔ IsLatin value := by
  have equals : IsLatin "=" := by decide
  unfold writePair
  simp only [isLatin_append, named, equals, true_and]
  split
  · exact isLatin_quoteNode
  · exact Iff.rfl

/-- A map goes onto the wire exactly if all of its values do. -/
theorem DirectiveMap.isLatin_write {map : DirectiveMap}
    (named : ∀ entry ∈ map.entries, isKnown entry.1 = true) :
    IsLatin map.write ↔ ∀ entry ∈ map.entries, ∀ value ∈ entry.2, IsLatin value := by
  have semicolon : IsLatin ";" := by decide
  have comma : IsLatin ", " := by decide
  rw [DirectiveMap.write, isLatin_intercalate semicolon, List.forall_mem_map]
  refine forall₂_congr fun entry member => ?_
  rw [isLatin_intercalate comma, List.forall_mem_map]
  exact forall₂_congr fun value _ =>
    isLatin_writePair (isLatin_of_isKnown (named entry member))

end ForwardedClient.Forwarded
