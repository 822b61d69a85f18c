import ForwardedClient.Proofs.Forwarded.Pair
import ForwardedClient.Proofs.Text.Latin

/-!
Contract: what a map can be that was read from headers.

Owns: the values that a directive can have, the well-formedness of maps, and its preservation by
every operation on a map, reading included.

Does not own: the order in which the directives stand.
-/

namespace ForwardedClient.Forwarded

open ForwardedClient.Address
open ForwardedClient.Journal
open ForwardedClient.Text

/-! ### Values -/

/-- A value that reading may give to a directive. -/
structure IsAccepted (name value : String) : Prop where
  known : isKnown name = true
  clean : IsClean value
  given : hasAddress name = true → isWithheld value = false
  supported : hasAddress name = false → isProtocol value = true

/-- The characters of tokens are scanned as they are. -/
theorem isPlain_of_isTokenChar {char : Char} (token : isTokenChar char = true) :
    isPlain char = true := by
  have stranger : ∀ other : Char, isTokenChar other = false → char ≠ other := by
    rintro other foreign rfl
    rw [token] at foreign
    exact nomatch foreign
  have comma : char ≠ ',' := stranger ',' (by decide)
  have semicolon : char ≠ ';' := stranger ';' (by decide)
  have equals : char ≠ '=' := stranger '=' (by decide)
  have space : char ≠ ' ' := stranger ' ' (by decide)
  have quote : char ≠ '"' := stranger '"' (by decide)
  simp [isPlain, isBreak, comma, semicolon, equals, space, quote]

/-- A character of a protocol that is its own small letter is one of its name. -/
theorem mem_of_isProtocol {value : String} (supported : isProtocol value = true) {char : Char}
    (member : char ∈ value.toList) (notDotted : char.toNat ≠ 0x130)
    (notSigma : char.toNat ≠ 0x3A3) (own : lowerCode char.toNat = char.toNat) :
    char ∈ "https".toList := by
  have kept : char ∈ (lower value).toList := by
    rw [lower, String.toList_ofList]
    have small := @mem_lowerFrom [] value.toList char member notDotted notSigma
    rwa [own, Char.ofNat_toNat] at small
  simp only [isProtocol, Bool.or_eq_true, beq_iff_eq] at supported
  have spelled : "https".toList = "http".toList ++ ['s'] := by decide
  rcases supported with http | https
  · exact spelled ▸ List.mem_append_left ['s'] (http ▸ kept)
  · exact https ▸ kept

theorem isPlain_of_isProtocol {value : String} (supported : isProtocol value = true) {char : Char}
    (member : char ∈ value.toList) : isPlain char = true := by
  have stranger : ∀ other : Char, other.toNat < 0x80 → lowerCode other.toNat = other.toNat →
      other ∉ "https".toList → char ≠ other := by
    rintro other ascii own foreign rfl
    exact foreign (mem_of_isProtocol supported member (by omega) (by omega) own)
  have comma : char ≠ ',' := stranger ',' (by decide) (by decide) (by decide)
  have semicolon : char ≠ ';' := stranger ';' (by decide) (by decide) (by decide)
  have equals : char ≠ '=' := stranger '=' (by decide) (by decide) (by decide)
  have space : char ≠ ' ' := stranger ' ' (by decide) (by decide) (by decide)
  have quote : char ≠ '"' := stranger '"' (by decide) (by decide) (by decide)
  simp [isPlain, isBreak, comma, semicolon, equals, space, quote]

theorem isBlank_of_isProtocol {value : String} (supported : isProtocol value = true) {char : Char}
    (member : char ∈ value.toList) : isBlank char = false := by
  cases blank : isBlank char with
  | false => rfl
  | true =>
      have own := lowerCode_of_isBlank blank
      have notDotted : char.toNat ≠ 0x130 := fun same => by
        simp [isBlank, same] at blank
      have notSigma : char.toNat ≠ 0x3A3 := fun same => by
        simp [isBlank, same] at blank
      have letter := mem_of_isProtocol supported member notDotted notSigma own
      have visible : "https".toList.all (!isBlank ·) = true := by decide
      have seen := List.all_eq_true.mp visible char letter
      rw [blank] at seen
      cases seen

/-- A node that withholds nothing is accepted wherever an address is. -/
theorem IsNode.isAccepted {name value : String} (node : IsNode value)
    (known : isKnown name = true) (addressed : hasAddress name = true)
    (given : isWithheld value = false) : IsAccepted name value where
  known := known
  clean := by
    refine ⟨node.ne_empty, fun char member => ?_⟩
    rcases node.mem_cases member with colon | token
    · exact colon ▸ by decide
    · exact isPlain_of_isTokenChar token
  given := fun _ => given
  supported := fun unaddressed => nomatch addressed.symm.trans unaddressed

theorem isClean_unbracket {value : String} (clean : IsClean value) :
    IsClean (unbracket value).1 := by
  refine ⟨unbracket_ne_empty clean.filled, fun char member => ?_⟩
  rcases mem_unbracket member with inside | colon
  · exact clean.plain char inside
  · exact colon ▸ by decide

/-- Whatever a pair of plain characters contributes is accepted. -/
theorem isAccepted_of_normalize {key value : String}
    (plain : ∀ char ∈ value.toList, isPlain char = true) {directive spelled : String}
    (contributed : (normalize key value).1 = some (directive, spelled)) :
    IsAccepted directive spelled := by
  unfold normalize at contributed
  simp only at contributed
  split at contributed
  · exact nomatch contributed
  · rename_i recognised
    simp only [Bool.or_eq_true, not_or, Bool.not_eq_true', Bool.not_eq_false] at recognised
    obtain ⟨known, filled⟩ := recognised
    have clean : IsClean value := ⟨by simpa using filled, plain⟩
    have spelling : IsClean (if lower key == "for" && value.toList.head? == some '[' then
        unbracket value else (value, [])).1 := by
      split
      · exact isClean_unbracket clean
      · exact clean
    -- All branches record the same word, so it gets a name before they are split.
    generalize (if lower key == "for" && value.toList.head? == some '[' then
      unbracket value else (value, [])) = word at contributed spelling
    split at contributed
    · rename_i addressed
      split at contributed
      · exact nomatch contributed
      · rename_i given
        injection contributed with same
        injection same with first second
        subst first second
        exact ⟨known, spelling, fun _ => by simpa using given,
          fun unaddressed => nomatch addressed.symm.trans unaddressed⟩
    · rename_i unaddressed
      split at contributed
      · rename_i supported
        injection contributed with same
        injection same with first second
        subst first second
        exact ⟨known, spelling, fun addressed => absurd addressed unaddressed, fun _ => supported⟩
      · exact nomatch contributed

/-! ### Maps -/

namespace DirectiveMap

/-- A map as reading makes them: no directive stands twice, none is without values, and all
values are accepted. -/
structure IsWellFormed (map : DirectiveMap) : Prop where
  distinct : (map.entries.map (·.1)).Nodup
  filled : ∀ entry ∈ map.entries, entry.2 ≠ []
  accepted : ∀ entry ∈ map.entries, ∀ value ∈ entry.2, IsAccepted entry.1 value

theorem isWellFormed_empty : IsWellFormed {} := ⟨List.nodup_nil, by simp, by simp⟩

/-- A change keeps the names in their places; a new one comes last. -/
theorem names_modifyEntry (directive : String) (change : List String → List String)
    (entries : List (String × List String)) :
    (modifyEntry directive change entries).map (·.1) =
      if directive ∈ entries.map (·.1) then entries.map (·.1)
      else entries.map (·.1) ++ [directive] := by
  induction entries with
  | nil => rfl
  | cons entry rest inductionHypothesis =>
      unfold modifyEntry
      by_cases here : entry.1 = directive
      · simp [here]
      · have elsewhere : directive ≠ entry.1 := Ne.symm here
        simp only [beq_iff_eq, here, if_false, List.map_cons, inductionHypothesis, List.mem_cons,
          elsewhere, false_or]
        split <;> rfl

theorem nodup_modifyEntry {directive : String} {change : List String → List String}
    {entries : List (String × List String)} (distinct : (entries.map (·.1)).Nodup) :
    ((modifyEntry directive change entries).map (·.1)).Nodup := by
  rw [names_modifyEntry]
  split
  · exact distinct
  · rename_i absent
    rw [List.nodup_append]
    refine ⟨distinct, by simp, ?_⟩
    intro name member other isDirective same
    rw [List.mem_singleton] at isDirective
    exact absent (isDirective ▸ same ▸ member)

variable {map : DirectiveMap}

/-- A change that turns accepted values into accepted values, and into some, keeps a map
well-formed. -/
theorem IsWellFormed.modifyEntry (wellFormed : map.IsWellFormed) {directive : String}
    {change : List String → List String} (filled : ∀ values, change values ≠ [])
    (accepted : ∀ values, (∀ value ∈ values, IsAccepted directive value) →
      ∀ value ∈ change values, IsAccepted directive value) :
    IsWellFormed ⟨DirectiveMap.modifyEntry directive change map.entries⟩ where
  distinct := nodup_modifyEntry wellFormed.distinct
  filled := by
    intro entry member
    rcases mem_modifyEntry member with kept | ⟨-, fresh | ⟨old, -, -, same⟩⟩
    · exact wellFormed.filled entry kept
    · exact fresh ▸ filled []
    · exact same ▸ filled old.2
  accepted := by
    intro entry member
    rcases mem_modifyEntry member with kept | ⟨named, fresh | ⟨old, place, oldNamed, same⟩⟩
    · exact wellFormed.accepted entry kept
    · rw [named, fresh]
      exact accepted [] (by simp)
    · rw [named, same]
      exact accepted old.2 (oldNamed ▸ wellFormed.accepted old place)

theorem IsWellFormed.add (wellFormed : map.IsWellFormed) {directive value : String}
    (isAccepted : IsAccepted directive value) : (map.add directive value).IsWellFormed := by
  refine wellFormed.modifyEntry (by simp) fun values old word member => ?_
  rcases List.mem_append.mp member with earlier | last
  · exact old word earlier
  · exact List.mem_singleton.mp last ▸ isAccepted

theorem IsWellFormed.erase (wellFormed : map.IsWellFormed) (directive : String) :
    (map.erase directive).IsWellFormed where
  distinct := wellFormed.distinct.sublist (List.filter_sublist.map _)
  filled := fun entry member => wellFormed.filled entry (List.mem_filter.mp member).1
  accepted := fun entry member => wellFormed.accepted entry (List.mem_filter.mp member).1

theorem IsWellFormed.replace (wellFormed : map.IsWellFormed) {directive : String}
    {others : List String} (accepted : ∀ value ∈ others, IsAccepted directive value) :
    (map.replace directive others).IsWellFormed := by
  unfold DirectiveMap.replace
  split
  · exact wellFormed.erase directive
  · rename_i filled
    have some_others : others ≠ [] := by simpa using filled
    exact wellFormed.modifyEntry (fun _ => some_others) fun _ _ => accepted

theorem isWellFormed_foldl_addPair {state : DirectiveMap × List Report}
    (wellFormed : state.1.IsWellFormed) {raw : List (String × String)}
    (plain : ∀ pair ∈ raw, ∀ char ∈ pair.2.toList, isPlain char = true) :
    (raw.foldl addPair state).1.IsWellFormed := by
  induction raw generalizing state with
  | nil => exact wellFormed
  | cons pair rest inductionHypothesis =>
      have added : (addPair state pair).1.IsWellFormed := by
        unfold addPair
        cases contributed : normalize pair.1 pair.2 with
        | mk entry reports =>
            cases entry with
            | none => exact wellFormed
            | some entry =>
                have made : (normalize pair.1 pair.2).1 = some (entry.1, entry.2) := by
                  rw [contributed]
                exact wellFormed.add
                  (isAccepted_of_normalize (plain pair List.mem_cons_self) made)
      exact inductionHypothesis added fun later member =>
        plain later (List.mem_cons_of_mem pair member)

/-- Whatever values are read, the map is well-formed. -/
theorem isWellFormed_read (values : List String) : (read values).1.IsWellFormed := by
  refine isWellFormed_foldl_addPair isWellFormed_empty ?_
  intro pair member char inside
  obtain ⟨value, -, scanned⟩ := List.mem_flatMap.mp member
  exact (mem_of_mem_pairs scanned inside).2

/-! ### Entries and values -/

namespace IsWellFormed

theorem named (wellFormed : map.IsWellFormed) :
    ∀ entry ∈ map.entries, isKnown entry.1 = true := by
  intro entry member
  obtain ⟨value, inside⟩ := List.exists_mem_of_ne_nil entry.2 (wellFormed.filled entry member)
  exact (wellFormed.accepted entry member value inside).known

theorem isAccepted_of_mem_values (wellFormed : map.IsWellFormed) {name value : String}
    (member : value ∈ map.values name) : IsAccepted name value := by
  obtain ⟨entry, place, named, inside⟩ := mem_entries_of_mem_values member
  exact named ▸ wellFormed.accepted entry place value inside

/-- A directive without values is absent. -/
theorem find?_eq_none (wellFormed : map.IsWellFormed) {name : String}
    (silent : map.values name = []) : map.find? name = none := by
  unfold DirectiveMap.values at silent
  unfold DirectiveMap.find? at silent ⊢
  cases found : map.entries.find? (·.1 == name) with
  | none => rfl
  | some entry =>
      rw [found] at silent
      exact absurd silent (wellFormed.filled entry (List.mem_of_find?_eq_some found))

/-- A map without values has no entries. -/
theorem entries_eq_nil (wellFormed : map.IsWellFormed) (silent : ∀ name, map.values name = []) :
    map.entries = [] := by
  cases entries : map.entries with
  | nil => rfl
  | cons entry rest =>
      have first : map.values entry.1 = entry.2 := by
        simp [DirectiveMap.values, DirectiveMap.find?, entries]
      have filled := wellFormed.filled entry (entries ▸ List.mem_cons_self)
      exact absurd (first.symm.trans (silent entry.1)) filled

end IsWellFormed

/-- The pairs of a written map are its values, each with its name. -/
theorem pairs_write_of_isWellFormed (wellFormed : map.IsWellFormed) :
    pairs map.write = map.entries.flatMap fun entry =>
      entry.2.map fun value => (entry.1, spell entry.1 value) :=
  pairs_write wellFormed.named wellFormed.filled fun entry member value inside =>
    (wellFormed.accepted entry member value inside).clean

/-- Where the names are distinct an entry has all values of its name. -/
theorem values_of_mem {entries : List (String × List String)}
    (distinct : (entries.map (·.1)).Nodup) {entry : String × List String}
    (member : entry ∈ entries) : (⟨entries⟩ : DirectiveMap).values entry.1 = entry.2 := by
  induction entries with
  | nil => exact absurd member List.not_mem_nil
  | cons first rest inductionHypothesis =>
      rw [List.map_cons, List.nodup_cons] at distinct
      rcases List.mem_cons.mp member with same | later
      · simp [DirectiveMap.values, DirectiveMap.find?, same]
      · have elsewhere : first.1 ≠ entry.1 := fun same =>
          distinct.1 (same ▸ List.mem_map.mpr ⟨entry, later, rfl⟩)
        rw [← inductionHypothesis distinct.2 later]
        simp [DirectiveMap.values, DirectiveMap.find?, elsewhere]

end DirectiveMap

end ForwardedClient.Forwarded
