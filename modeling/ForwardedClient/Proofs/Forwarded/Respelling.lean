import ForwardedClient.Proofs.Forwarded.WellFormed

/-!
Contract: what a map becomes by being written into a header and read from it.

Owns: the value that a raw value is recorded as, the values that are recorded as themselves, and
the entries of a map that was written and read, in their order.

Does not own: which maps come back unchanged.
-/

namespace ForwardedClient.Forwarded

open ForwardedClient.Address
open ForwardedClient.Journal
open ForwardedClient.Text

/-! ### Recorded values -/

/-- The value that a raw value is recorded as, if it counts. -/
def recorded (name word : String) : String :=
  if name = "for" ∧ word.toList.head? = some '[' then (unbracket word).1 else word

/-- What a written value is read as. -/
def again (name value : String) : String := recorded name (spell name value)

/-- Whether a value that is recorded counts: an address that is not withheld, or a protocol. -/
def counts (name value : String) : Bool :=
  if hasAddress name then !isWithheld value else isProtocol value

section Recorded

variable {name word value : String}

theorem recorded_of_kept (kept : ¬ (name = "for" ∧ word.toList.head? = some '[')) :
    recorded name word = word := if_neg kept

theorem recorded_of_opened (opened : word.toList.head? = some '[') :
    recorded "for" word = (unbracket word).1 := if_pos ⟨rfl, opened⟩

/-- A raw pair with a known name contributes what its value is recorded as, if that counts. -/
theorem normalize_of_isKnown (known : isKnown name = true) (filled : word ≠ "") :
    (normalize name word).1 =
      if counts name (recorded name word) = true then some (name, recorded name word)
      else none := by
  have word_filled : word.isEmpty = false := String.isEmpty_eq_false_iff.mpr filled
  have spelling : (if name == "for" && word.toList.head? == some '[' then unbracket word
      else (word, [])).1 = recorded name word := by
    simp only [Bool.and_eq_true, beq_iff_eq, recorded]
    split <;> rfl
  unfold normalize counts
  simp only [lower_of_isKnown known, known, word_filled, Bool.not_true, Bool.or_self,
    Bool.false_eq_true, if_false]
  generalize (if name == "for" && word.toList.head? == some '[' then unbracket word
      else (word, [])) = pair at spelling ⊢
  rw [spelling]
  by_cases addressed : hasAddress name = true
  · cases isWithheld (recorded name word) <;> simp [addressed]
  · cases isProtocol (recorded name word) <;> simp [addressed]

/-- The unbracketed spelling of a literal is its address with its port. -/
theorem unbracket_of_read {host : HostLiteral} (parsed : HostLiteral.read word = .ok host) :
    (unbracket word).1.toList = host.address.toList ++ portTail (host.port.map String.toList) := by
  cases port : host.port with
  | none =>
      simp only [unbracket, parsed, port]
      exact (List.append_nil _).symm
  | some text =>
      simp only [unbracket, parsed, port, String.toList_append, List.append_assoc]
      rfl

theorem unbracket_of_refused {failure : HostError}
    (refused : HostLiteral.read word = .error failure) : (unbracket word).1 = word := by
  simp only [unbracket, refused]

/-- A bracketed text that is read is an address up to the first closing bracket, and a checked
port. -/
theorem enclosed_of_read {host : HostLiteral} (opened : word.toList.head? = some '[')
    (parsed : HostLiteral.read word = .ok host) :
    ∃ (address : List Char) (port : Option (List Char)),
      word.toList = '[' :: (address ++ ']' :: portTail port) ∧
      (unbracket word).1.toList = address ++ portTail port ∧
      isIpv6 address = true ∧ (∀ char ∈ address, (char == ']') = false) ∧
      ∀ checked, port = some checked → isPortText checked = true := by
  obtain ⟨name, port, literal, spelled, isName, checked⟩ := HostLiteral.cases_of_read parsed
  cases isName with
  | host named =>
      -- A host name holds no bracket, so that it is not the name of this text.
      rw [String.toList_ofList] at named
      obtain ⟨first, others, letters⟩ := List.exists_cons_of_ne_nil (ne_nil_of_isHostName named)
      rw [spelled, letters, List.cons_append, List.head?_cons] at opened
      exact absurd (letters.trans (by rw [Option.some.inj opened]))
        (noBracket_of_isHostName named others)
  | bracketed address written enclosed ipv6 =>
      rw [String.toList_ofList] at written
      have shown : host.address.toList = address := by
        simp [literal, HostLiteral.address, HostLiteral.isIpv6, written, String.toList_ofList]
      have kept : host.port.map String.toList = port := by
        cases port <;> simp [literal, String.toList_ofList]
      refine ⟨address, port, ?_, ?_, ipv6, enclosed, checked⟩
      · rw [spelled, written, List.cons_append, List.cons_append, List.append_assoc]
        rfl
      · rw [unbracket_of_read parsed, shown, kept]

/-- A `for` value that was recorded would be recorded as itself. -/
theorem recorded_recorded (name word : String) :
    recorded name (recorded name word) = recorded name word := by
  by_cases bracketed : name = "for" ∧ word.toList.head? = some '['
  · obtain ⟨isFor, opened⟩ := bracketed
    subst isFor
    rw [recorded_of_opened opened]
    cases parsed : HostLiteral.read word with
    | error failure =>
        have kept := unbracket_of_refused parsed
        rw [kept, recorded_of_opened opened, kept]
    | ok host =>
        -- The address stands in front now, and none begins with a bracket.
        obtain ⟨address, port, -, shown, ipv6, -, -⟩ := enclosed_of_read opened parsed
        obtain ⟨first, rest, letters, isFirst⟩ := head_of_isIpv6 ipv6
        refine recorded_of_kept ?_
        rintro ⟨-, bracket⟩
        rw [shown, letters, List.cons_append, List.head?_cons, Option.some.injEq] at bracket
        rcases isFirst with colon | stop | digit
        · exact absurd (bracket.symm.trans colon) (by decide)
        · exact absurd (bracket.symm.trans stop) (by decide)
        · rw [bracket] at digit
          exact absurd digit (by decide)
  · rw [recorded_of_kept bracketed, recorded_of_kept bracketed]

end Recorded

/-! ### Values that were written -/

section Written

variable {name value word : String}

theorem noBracket_of_portTail {port : Option (List Char)}
    (checked : ∀ text, port = some text → isPortText text = true) :
    (portTail port).count ']' = 0 := by
  rw [List.count_eq_zero]
  intro member
  rcases mem_portTail checked member with colon | token
  · exact absurd colon (by decide)
  · exact absurd token (by decide)

/-- A literal has one closing bracket, so that a text which is written between brackets is read
without them if it is read at all. -/
theorem unbracket_of_enclosed {host : HostLiteral} {inner : List Char} {port : Option (List Char)}
    (spelled : word.toList = '[' :: (inner ++ ']' :: portTail port))
    (parsed : HostLiteral.read word = .ok host) :
    (unbracket word).1 = String.ofList (inner ++ portTail port) := by
  have opened : word.toList.head? = some '[' := by rw [spelled, List.head?_cons]
  obtain ⟨address, last, written, shown, -, enclosed, checked⟩ := enclosed_of_read opened parsed
  have same : inner ++ ']' :: portTail port = address ++ ']' :: portTail last := by
    rw [spelled] at written
    exact (List.cons.inj written).2
  have single : (address ++ ']' :: portTail last).count ']' = 1 := by
    have inAddress : address.count ']' = 0 := by
      rw [List.count_eq_zero]
      exact fun member => absurd (enclosed ']' member) (by decide)
    rw [List.count_append, List.count_cons_self, inAddress, noBracket_of_portTail checked]
  have inner_enclosed : ∀ char ∈ inner, (char == ']') = false := by
    rw [← same, List.count_append, List.count_cons_self] at single
    have absent : ']' ∉ inner := List.count_eq_zero.mp (by omega)
    intro char member
    rw [beq_eq_false_iff_ne]
    exact fun closing => absent (closing ▸ member)
  have cut : partitionAt (· == ']') (address ++ ']' :: portTail last) =
      (inner, some (portTail port)) := by
    rw [← same]
    exact partitionAt_append (by decide) inner_enclosed (portTail port)
  rw [partitionAt_append (by decide) enclosed] at cut
  injection cut with first second
  apply String.toList_inj.mp
  rw [shown, first, Option.some.inj second, String.toList_ofList]

/-- A value between brackets is read as the value, or is no literal. -/
theorem cases_of_isBracketed (bracketed : IsBracketed value word) :
    (unbracket word).1 = value ∨ (unbracket word).1 = word := by
  have spelled : ∃ inner port, word.toList = '[' :: (inner ++ ']' :: portTail port) ∧
      String.ofList (inner ++ portTail port) = value := by
    cases bracketed with
    | whole =>
        refine ⟨value.toList, none, ?_, ?_⟩
        · simp only [String.toList_append, List.append_assoc]
          rfl
        · simp [portTail]
    | port address last split =>
        refine ⟨address.toList, some last.toList, ?_, ?_⟩
        · simp only [String.toList_append, List.append_assoc]
          rfl
        · apply String.toList_inj.mp
          simp only [split, String.toList_append, String.toList_ofList, List.append_assoc]
          rfl
  obtain ⟨inner, port, written, back⟩ := spelled
  cases parsed : HostLiteral.read word with
  | error failure => exact Or.inr (unbracket_of_refused parsed)
  | ok host => exact Or.inl ((unbracket_of_enclosed written parsed).trans back)

theorem spellNode_of_opened (opened : word.toList.head? = some '[') : spellNode word = word := by
  unfold spellNode
  rw [if_pos (beq_iff_eq.mpr opened)]

/-- What a node was spelled as is quoted as the node. -/
theorem quoteNode_spellNode (value : String) : quoteNode (spellNode value) = quoteNode value := by
  by_cases opened : value.toList.head? = some '['
  · rw [spellNode_of_opened opened]
  · by_cases few : value.toList.count ':' < 2
    · rw [spellNode, if_neg (by simpa using opened), if_pos few]
    · have bracketed : (bracket value).toList.head? = some '[' :=
        head_of_isBracketed (isBracketed_bracket (List.count_pos_iff.mp (by omega)))
      rw [spellNode, if_neg (by simpa using opened), if_neg few, quoteNode, quoteNode,
        if_pos (beq_iff_eq.mpr bracketed), if_neg (by simpa using opened), if_neg few]

theorem spell_of_hasAddress (addressed : hasAddress name = true) : spell name = spellNode :=
  funext fun _ => if_pos addressed

theorem spell_of_not_hasAddress (unaddressed : ¬ hasAddress name = true) : spell name = id :=
  funext fun _ => if_neg unaddressed

/-- A value that is recorded as itself is read again as itself, or as it was written. -/
theorem cases_of_again (settled : recorded name value = value) :
    again name value = value ∨ again name value = spell name value := by
  unfold again
  by_cases addressed : hasAddress name = true
  · rw [spell_of_hasAddress addressed]
    by_cases isFor : name = "for"
    · subst isFor
      rcases cases_of_spellNode value with same | ⟨-, bracketed⟩
      · rw [same]
        exact Or.inl settled
      · rw [recorded_of_opened (head_of_isBracketed bracketed)]
        exact cases_of_isBracketed bracketed
    · exact Or.inr (recorded_of_kept fun opened => isFor opened.1)
  · have other : name ≠ "for" := fun same => addressed (same ▸ by decide)
    exact Or.inr (recorded_of_kept fun opened => other opened.1)

/-- A node comes back as it is. -/
theorem IsNode.again_eq (node : IsNode value) : again "for" value = value := by
  have back := node.unbracket_spellNode
  rw [again, spell_of_hasAddress (by decide), recorded]
  by_cases opened : (spellNode value).toList.head? = some '['
  · rw [if_pos (beq_iff_eq.mpr opened)] at back
    rw [if_pos ⟨rfl, opened⟩, back]
  · rw [if_neg (by simpa using opened)] at back
    rw [if_neg fun both => opened both.2]
    exact back

theorem IsNode.recorded_eq (node : IsNode value) (name : String) : recorded name value = value :=
  recorded_of_kept fun opened => node.not_opened (beq_iff_eq.mpr opened.2)

/-- Whatever a value is read as again, it is written as before. -/
theorem writePair_again (known : isKnown name = true) (settled : recorded name value = value) :
    writePair name (again name value) = writePair name value := by
  rcases cases_of_again settled with same | spelled
  · rw [same]
  · unfold writePair
    rw [lower_of_isKnown known, spelled]
    by_cases addressed : hasAddress name = true
    · rw [if_pos addressed, if_pos addressed, spell_of_hasAddress addressed, quoteNode_spellNode]
    · rw [if_neg addressed, if_neg addressed, spell_of_not_hasAddress addressed]
      rfl

/-- An accepted value counts again once it was written. -/
theorem counts_again (accepted : IsAccepted name value) (settled : recorded name value = value) :
    counts name (again name value) = true := by
  unfold counts
  split
  · rename_i addressed
    have given := accepted.given addressed
    rw [Bool.not_eq_true']
    rcases cases_of_again settled with same | spelled
    · rw [same]
      exact given
    · rw [spelled, spell_of_hasAddress addressed]
      exact isWithheld_spellNode given
  · rename_i unaddressed
    have kept : again name value = value := by
      rcases cases_of_again settled with same | spelled
      · exact same
      · rw [spelled, spell_of_not_hasAddress unaddressed]
        rfl
    rw [kept]
    exact accepted.supported (Bool.eq_false_iff.mpr unaddressed)

theorem normalize_spell_of_settled (accepted : IsAccepted name value)
    (settled : recorded name value = value) :
    (normalize name (spell name value)).1 = some (name, again name value) :=
  (normalize_of_isKnown accepted.known (accepted.clean.spell name).filled).trans
    (if_pos (counts_again accepted settled))

end Written

/-! ### Maps -/

namespace DirectiveMap

/-- All values of a map are recorded as themselves. -/
def IsSettled (map : DirectiveMap) : Prop :=
  ∀ entry ∈ map.entries, ∀ value ∈ entry.2, recorded entry.1 value = value

/-- What a pair contributes is what its value is recorded as. -/
theorem eq_recorded_of_normalize {key word directive value : String}
    (contributed : (normalize key word).1 = some (directive, value)) :
    value = recorded directive word := by
  have recognised : ¬ (!isKnown (lower key) || word.isEmpty) = true := by
    intro dropped
    simp [normalize, dropped] at contributed
  rw [Bool.or_eq_true, not_or, Bool.not_eq_true', Bool.not_eq_false, String.isEmpty_iff]
    at recognised
  obtain ⟨known, filled⟩ := recognised
  have lowered : normalize key word = normalize (lower key) word := by
    unfold normalize
    rw [lower_of_isKnown known]
  rw [lowered, normalize_of_isKnown known filled] at contributed
  by_cases fits : counts (lower key) (recorded (lower key) word) = true
  · rw [if_pos fits, Option.some.injEq, Prod.mk.injEq] at contributed
    rw [← contributed.2, contributed.1]
  · rw [if_neg fits] at contributed
    exact nomatch contributed

theorem isSettled_add {map : DirectiveMap} (settled : map.IsSettled) {directive value : String}
    (own : recorded directive value = value) : (map.add directive value).IsSettled := by
  intro entry member word inside
  rcases mem_modifyEntry member with kept | ⟨named, fresh | ⟨old, place, oldNamed, same⟩⟩
  · exact settled entry kept word inside
  · rw [fresh, List.nil_append, List.mem_singleton] at inside
    rw [named, inside, own]
  · rw [same, List.mem_append, List.mem_singleton] at inside
    rcases inside with earlier | last
    · rw [named, ← oldNamed]
      exact settled old place word earlier
    · rw [named, last, own]

theorem addPair_of_normalize {key word directive value : String}
    (contributed : (normalize key word).1 = some (directive, value))
    (state : DirectiveMap × List Report) :
    (addPair state (key, word)).1 = state.1.add directive value := by
  unfold addPair
  cases normalized : normalize key word with
  | mk entry reports =>
      rw [normalized] at contributed
      subst contributed
      rfl

theorem addPair_of_dropped {key word : String} (dropped : (normalize key word).1 = none)
    (state : DirectiveMap × List Report) : (addPair state (key, word)).1 = state.1 := by
  unfold addPair
  cases normalized : normalize key word with
  | mk entry reports =>
      rw [normalized] at dropped
      subst dropped
      rfl

theorem isSettled_foldl_addPair {state : DirectiveMap × List Report} (settled : state.1.IsSettled)
    (raw : List (String × String)) : (raw.foldl addPair state).1.IsSettled := by
  induction raw generalizing state with
  | nil => exact settled
  | cons pair rest inductionHypothesis =>
      refine inductionHypothesis ?_
      obtain ⟨key, word⟩ := pair
      cases contributed : (normalize key word).1 with
      | none =>
          rw [addPair_of_dropped contributed]
          exact settled
      | some entry =>
          rw [addPair_of_normalize contributed]
          refine isSettled_add settled ?_
          rw [eq_recorded_of_normalize contributed, recorded_recorded]

/-- Whatever values are read, those of the map are recorded as themselves. -/
theorem isSettled_read (values : List String) : (read values).1.IsSettled :=
  isSettled_foldl_addPair (fun _ member => absurd member List.not_mem_nil) _

/-! ### Entries that were written -/

section Entries

variable {before : List (String × List String)} {name : String}

/-- A change passes by the entries with other names. -/
theorem modifyEntry_append (absent : name ∉ before.map (·.1))
    (change : List String → List String) (after : List (String × List String)) :
    modifyEntry name change (before ++ after) = before ++ modifyEntry name change after := by
  induction before with
  | nil => rfl
  | cons entry rest inductionHypothesis =>
      rw [List.map_cons, List.mem_cons, not_or] at absent
      have elsewhere : ¬ (entry.1 == name) = true := by
        rw [beq_iff_eq]
        exact fun same => absent.1 same.symm
      rw [List.cons_append, modifyEntry, if_neg elsewhere, inductionHypothesis absent.2,
        List.cons_append]

-- `spelled` is how a value stands in its pair, and `kept` is what the pair contributes of it.
variable {values : List String} {spelled kept : String → String}
  (made : ∀ value ∈ values, (normalize name (spelled value)).1 = some (name, kept value))

include made

/-- The pairs of an entry come after the values that its name already has. -/
theorem foldl_addPair_values (absent : name ∉ before.map (·.1)) {found : List String}
    {state : DirectiveMap × List Report} (shape : state.1 = ⟨before ++ [(name, found)]⟩) :
    ((values.map fun value => (name, spelled value)).foldl addPair state).1 =
      ⟨before ++ [(name, found ++ values.map kept)]⟩ := by
  induction values generalizing found state with
  | nil => simpa using shape
  | cons value rest inductionHypothesis =>
      have added : (addPair state (name, spelled value)).1 =
          ⟨before ++ [(name, found ++ [kept value])]⟩ := by
        rw [addPair_of_normalize (made value List.mem_cons_self), shape, add,
          modifyEntry_append absent, modifyEntry, if_pos (beq_self_eq_true name)]
      rw [List.map_cons, List.foldl_cons, inductionHypothesis
        (fun other member => made other (List.mem_cons_of_mem value member)) added,
        List.append_assoc, List.singleton_append, List.map_cons]

/-- The pairs of an entry with a new name make the entry, after those before it. -/
theorem foldl_addPair_entry (absent : name ∉ before.map (·.1)) (filled : values ≠ [])
    {state : DirectiveMap × List Report} (shape : state.1 = ⟨before⟩) :
    ((values.map fun value => (name, spelled value)).foldl addPair state).1 =
      ⟨before ++ [(name, values.map kept)]⟩ := by
  obtain ⟨value, rest, same⟩ := List.exists_cons_of_ne_nil filled
  subst same
  have last : modifyEntry name (· ++ [kept value]) before = before ++ [(name, [kept value])] := by
    have passed := modifyEntry_append absent (· ++ [kept value]) []
    rwa [List.append_nil] at passed
  have added : (addPair state (name, spelled value)).1 = ⟨before ++ [(name, [kept value])]⟩ := by
    rw [addPair_of_normalize (made value List.mem_cons_self), shape, add, last]
  rw [List.map_cons, List.foldl_cons]
  exact foldl_addPair_values
    (fun other member => made other (List.mem_cons_of_mem value member)) absent added

end Entries

/-- The pairs of entries with distinct names make these entries, in their order. -/
theorem foldl_addPair_entries {before entries : List (String × List String)}
    {spelled kept : String → String → String} (distinct : ((before ++ entries).map (·.1)).Nodup)
    (filled : ∀ entry ∈ entries, entry.2 ≠ [])
    (made : ∀ entry ∈ entries, ∀ value ∈ entry.2,
      (normalize entry.1 (spelled entry.1 value)).1 = some (entry.1, kept entry.1 value))
    {state : DirectiveMap × List Report} (shape : state.1 = ⟨before⟩) :
    ((entries.flatMap fun entry => entry.2.map fun value =>
      (entry.1, spelled entry.1 value)).foldl addPair state).1 =
        ⟨before ++ entries.map fun entry => (entry.1, entry.2.map (kept entry.1))⟩ := by
  induction entries generalizing before state with
  | nil => simpa using shape
  | cons entry rest inductionHypothesis =>
      have absent : entry.1 ∉ before.map (·.1) := by
        rw [List.map_append, List.nodup_append] at distinct
        intro member
        exact distinct.2.2 _ member _ List.mem_cons_self rfl
      have own := foldl_addPair_entry (made entry List.mem_cons_self) absent
        (filled entry List.mem_cons_self) shape
      have later : ((before ++ [(entry.1, entry.2.map (kept entry.1))] ++ rest).map
          (·.1)).Nodup := by
        simpa using distinct
      rw [List.flatMap_cons, List.foldl_append, inductionHypothesis later
        (fun other member => filled other (List.mem_cons_of_mem entry member))
        (fun other member => made other (List.mem_cons_of_mem entry member)) own,
        List.append_assoc, List.singleton_append, List.map_cons]

/-- Written and read, a map has its entries in their order, with each value as it is read
again. -/
theorem entries_read_write {map : DirectiveMap} (wellFormed : map.IsWellFormed)
    (settled : map.IsSettled) :
    (read [map.write]).1.entries =
      map.entries.map fun entry => (entry.1, entry.2.map (again entry.1)) := by
  have made := @foldl_addPair_entries [] map.entries spell again wellFormed.distinct
    wellFormed.filled
    (fun entry member value inside => normalize_spell_of_settled
      (wellFormed.accepted entry member value inside) (settled entry member value inside))
    ({}, []) rfl
  rw [read, List.flatMap_singleton, pairs_write_of_isWellFormed wellFormed, made, List.nil_append]

theorem values_read_write_of_settled {map : DirectiveMap} (wellFormed : map.IsWellFormed)
    (settled : map.IsSettled) (name : String) :
    (read [map.write]).1.values name = (map.values name).map (again name) := by
  have same : ((fun entry : String × List String => entry.1 == name) ∘
      fun entry : String × List String => (entry.1, entry.2.map (again entry.1))) =
        fun entry => entry.1 == name := rfl
  unfold values find?
  rw [entries_read_write wellFormed settled, List.find?_map, same]
  cases found : map.entries.find? (·.1 == name) with
  | none => rfl
  | some entry =>
      have named : entry.1 = name := by simpa using List.find?_some found
      exact named ▸ rfl

end DirectiveMap

end ForwardedClient.Forwarded
