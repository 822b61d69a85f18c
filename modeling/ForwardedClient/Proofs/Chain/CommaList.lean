import ForwardedClient.Chain.CommaList
import ForwardedClient.Proofs.Text.Blank
import ForwardedClient.Proofs.Text.Latin
import ForwardedClient.Proofs.Text.Pieces

/-!
Contract: what a comma does to a chain.

Owns: the laws by which a header value falls apart at any of its commas and at the end of each
of its occurrences, whatever stands on either side; the entries of a value as the parts between
its commas; and the round trip of a chain through its header value.

Does not own: the walk along the entries.
-/

namespace ForwardedClient.Chain

open ForwardedClient.Text

theorem scanEntries_cons (entry blanks : List Char) (char : Char) (rest : List Char) :
    scanEntries entry blanks (char :: rest) =
      if char == ',' then closeEntry entry ++ scanEntries [] [] rest
      else if isBlank char then
        if entry.isEmpty then scanEntries [] [] rest
        else scanEntries entry (blanks ++ [char]) rest
      else scanEntries (entry ++ blanks ++ [char]) [] rest := rfl

/-- A comma ends the scan of what stands before it: entry and blanks that were read so far stay
on the left, and the right is scanned afresh. -/
theorem scanEntries_append_comma (entry blanks left right : List Char) :
    scanEntries entry blanks (left ++ ',' :: right) =
      scanEntries entry blanks left ++ scanEntries [] [] right := by
  induction left generalizing entry blanks with
  | nil => rfl
  | cons char rest inductionHypothesis =>
      rw [List.cons_append, scanEntries_cons, scanEntries_cons entry blanks char rest]
      by_cases comma : (char == ',') = true
      · rw [if_pos comma, if_pos comma, inductionHypothesis, List.append_assoc]
      · rw [if_neg comma, if_neg comma]
        by_cases blank : isBlank char = true
        · rw [if_pos blank, if_pos blank]
          by_cases fresh : entry.isEmpty = true
          · rw [if_pos fresh, if_pos fresh, inductionHypothesis]
          · rw [if_neg fresh, if_neg fresh, inductionHypothesis]
        · rw [if_neg blank, if_neg blank, inductionHypothesis]

/-- A blank in front of a value is no part of it. -/
theorem scanEntries_blank {char : Char} (blank : isBlank char = true) (other : char ≠ ',')
    (rest : List Char) : scanEntries [] [] (char :: rest) = scanEntries [] [] rest := by
  have noComma : ¬ (char == ',') = true := by simpa using other
  rw [scanEntries_cons, if_neg noComma, if_pos blank, if_pos List.isEmpty_nil]

/-- A value falls apart at any comma. -/
theorem split_append_comma (left right : String) :
    split (some (left ++ "," ++ right)) = split (some left) ++ split (some right) := by
  have spelled : (left ++ "," ++ right).toList = left.toList ++ ',' :: right.toList := by
    rw [String.toList_append, String.toList_append, List.append_assoc]
    rfl
  simp only [split, spelled, scanEntries_append_comma]

/-- The chain of all occurrences is made of the chains of each. -/
theorem read_eq_flatMap (values : List String) :
    read values = values.flatMap fun value => split (some value) := by
  induction values with
  | nil => rfl
  | cons value rest inductionHypothesis =>
      cases rest with
      | nil =>
          simp only [read, joinValues, String.intercalate_singleton, List.flatMap_cons,
            List.flatMap_nil, List.append_nil]
      | cons next others =>
          -- Values are joined with a blank after the comma, which is no part of the next one.
          have joined : joinValues (value :: next :: others) =
              value ++ "," ++ (" " ++ joinValues (next :: others)) := by
            rw [joinValues, String.intercalate_cons_cons, ← String.append_assoc, joinValues]
            congr 1
            rw [String.append_assoc]
            rfl
          have blank : split (some (" " ++ joinValues (next :: others))) =
              read (next :: others) := by
            rw [read, split, split, String.toList_append]
            exact scanEntries_blank (by decide) (by decide) _
          calc read (value :: next :: others)
              = split (some value) ++ read (next :: others) := by
                rw [read, joined, split_append_comma, blank]
            _ = split (some value) ++
                  (next :: others).flatMap fun value => split (some value) := by
                rw [inductionHypothesis]
            _ = (value :: next :: others).flatMap fun value => split (some value) := rfl

/-! ### Entries -/

/-- The scan of a text without commas whose entry has begun: blanks belong to the entry exactly if
more of it follows. -/
theorem scanEntries_of_begun {entry blanks text : List Char} (begun : entry ≠ [])
    (visible : isBlank (entry.getLast begun) = false)
    (blank : ∀ char ∈ blanks, isBlank char = true) (noComma : ∀ char ∈ text, char ≠ ',') :
    scanEntries entry blanks text =
      [String.ofList ((entry ++ blanks ++ text).rdropWhile isBlank)] := by
  induction text generalizing entry blanks with
  | nil =>
      have kept : (entry ++ blanks ++ []).rdropWhile isBlank = entry := by
        have dropped : blanks.rdropWhile isBlank = [] := List.rdropWhile_eq_nil_iff.mpr blank
        have reversed : blanks.reverse.dropWhile isBlank = [] := by
          rw [List.rdropWhile, List.reverse_eq_nil_iff] at dropped
          exact dropped
        rw [List.append_nil, List.rdropWhile, List.reverse_append, List.dropWhile_append, reversed,
          if_pos List.isEmpty_nil, ← List.rdropWhile, List.rdropWhile_eq_self_iff]
        intro _
        simp [visible]
      have unfinished : ¬ entry.isEmpty = true := by simpa using begun
      rw [scanEntries, closeEntry, if_neg unfinished, kept]
  | cons char rest inductionHypothesis =>
      have later : ∀ other ∈ rest, other ≠ ',' :=
        fun other member => noComma other (List.mem_cons_of_mem char member)
      have other : ¬ (char == ',') = true := by simpa using noComma char List.mem_cons_self
      have unfinished : ¬ entry.isEmpty = true := by simpa using begun
      rw [scanEntries_cons, if_neg other]
      by_cases isBlankChar : isBlank char = true
      · have blankLonger : ∀ other ∈ blanks ++ [char], isBlank other = true := by
          intro other member
          rcases List.mem_append.mp member with old | new
          · exact blank other old
          · rw [List.mem_singleton.mp new]
            exact isBlankChar
        rw [if_pos isBlankChar, if_neg unfinished, inductionHypothesis begun visible blankLonger later]
        simp only [List.append_assoc, List.singleton_append]
      · have longer : entry ++ blanks ++ [char] ≠ [] := by simp
        have visibleNow : isBlank ((entry ++ blanks ++ [char]).getLast longer) = false := by
          simpa using isBlankChar
        rw [if_neg isBlankChar, inductionHypothesis longer visibleNow (by simp) later]
        simp only [List.append_assoc, List.singleton_append]

/-- A text without commas is one entry, without the blanks around it, or none. -/
theorem scanEntries_of_noComma {text : List Char} (noComma : ∀ char ∈ text, char ≠ ',') :
    scanEntries [] [] text = closeEntry (strip text) := by
  induction text with
  | nil => rfl
  | cons char rest inductionHypothesis =>
      have later : ∀ other ∈ rest, other ≠ ',' :=
        fun other member => noComma other (List.mem_cons_of_mem char member)
      have other : char ≠ ',' := noComma char List.mem_cons_self
      by_cases isBlankChar : isBlank char = true
      · rw [scanEntries_blank isBlankChar other, inductionHypothesis later, strip_eq, strip_eq,
          List.dropWhile_cons_of_pos isBlankChar]
      · have noCommaHere : ¬ (char == ',') = true := by simpa using other
        have visible : isBlank ([char].getLast (List.cons_ne_nil char [])) = false := by
          simpa using isBlankChar
        have filled : ¬ ((char :: rest).rdropWhile isBlank).isEmpty = true := by
          intro empty
          have blank := List.rdropWhile_eq_nil_iff.mp (List.isEmpty_iff.mp empty) char
            List.mem_cons_self
          exact isBlankChar blank
        rw [scanEntries_cons, if_neg noCommaHere, if_neg isBlankChar, List.nil_append,
          List.nil_append, scanEntries_of_begun (List.cons_ne_nil char []) visible (by simp) later,
          List.append_nil, List.singleton_append, strip_eq, List.dropWhile_cons_of_neg isBlankChar,
          closeEntry, if_neg filled]

/-- The entries of a header value are its pieces between commas, without the blanks around them;
empty ones are left out. -/
theorem split_eq_flatMap (value : String) :
    split (some value) =
      (pieces (· == ',') value.toList).flatMap fun piece => closeEntry (strip piece) := by
  -- The induction is on the length, since a cut at the first comma leaves any shorter text.
  have scanned : ∀ (length : Nat) (text : List Char), text.length ≤ length →
      scanEntries [] [] text =
        (pieces (· == ',') text).flatMap fun piece => closeEntry (strip piece) := by
    intro length
    induction length with
    | zero =>
        intro text short
        rw [List.length_eq_zero_iff.mp (Nat.le_zero.mp short)]
        rfl
    | succ length inductionHypothesis =>
        intro text short
        cases cut : partitionAt (· == ',') text with
        | mk before after =>
            cases after with
            | none =>
                obtain ⟨-, absent⟩ := partitionAt_none cut
                have noComma : ∀ char ∈ text, char ≠ ',' := by
                  intro char member
                  simpa using absent char member
                rw [pieces_of_absent absent, scanEntries_of_noComma noComma]
                simp
            | some after =>
                obtain ⟨comma, isComma, whole, absent⟩ := partitionAt_some cut
                have same : comma = ',' := by simpa using isComma
                have noComma : ∀ char ∈ before, char ≠ ',' := by
                  intro char member
                  simpa using absent char member
                have shorter : after.length ≤ length := by
                  rw [whole, List.length_append, List.length_cons] at short
                  omega
                rw [whole, same, scanEntries_append_comma, scanEntries_of_noComma noComma,
                  inductionHypothesis after shorter, pieces_append (by decide) absent,
                  List.flatMap_cons]
  exact scanned value.toList.length value.toList (Nat.le_refl _)

/-- What an entry of a chain can be: a text that is not empty, holds no comma, and neither begins
nor ends with a blank. -/
structure IsEntry (entry : String) : Prop where
  filled : entry ≠ ""
  noComma : ∀ char ∈ entry.toList, char ≠ ','
  trimmed : strip entry.toList = entry.toList

theorem mem_closeEntry {piece : List Char} {entry : String} (member : entry ∈ closeEntry piece) :
    piece ≠ [] ∧ entry = String.ofList piece := by
  unfold closeEntry at member
  split at member
  · exact absurd member List.not_mem_nil
  · rename_i filled
    exact ⟨by simpa using filled, List.mem_singleton.mp member⟩

theorem exists_piece_of_mem_read {values : List String} {entry : String}
    (member : entry ∈ read values) :
    ∃ value ∈ values, ∃ piece ∈ pieces (· == ',') value.toList,
      strip piece ≠ [] ∧ entry = String.ofList (strip piece) := by
  rw [read_eq_flatMap] at member
  obtain ⟨value, isValue, inside⟩ := List.mem_flatMap.mp member
  rw [split_eq_flatMap] at inside
  obtain ⟨piece, isPiece, here⟩ := List.mem_flatMap.mp inside
  exact ⟨value, isValue, piece, isPiece, mem_closeEntry here⟩

theorem isEntry_of_mem_read {values : List String} {entry : String}
    (member : entry ∈ read values) : IsEntry entry := by
  obtain ⟨value, -, piece, isPiece, filled, same⟩ := exists_piece_of_mem_read member
  rw [same]
  refine ⟨?_, ?_, ?_⟩
  · intro empty
    have letters := congrArg String.toList empty
    rw [String.toList_ofList] at letters
    exact filled letters
  · intro char inside
    rw [String.toList_ofList] at inside
    simpa using (mem_of_mem_pieces isPiece (mem_of_mem_strip inside)).2
  · rw [String.toList_ofList, strip_strip]

/-- Entries hold nothing that the header does not. -/
theorem isLatin_of_mem_read {values : List String} (latin : ∀ value ∈ values, IsLatin value)
    {entry : String} (member : entry ∈ read values) : IsLatin entry := by
  obtain ⟨value, isValue, piece, isPiece, -, same⟩ := exists_piece_of_mem_read member
  rw [same, isLatin_ofList]
  intro char inside
  exact latin value isValue char (mem_of_mem_pieces isPiece (mem_of_mem_strip inside)).1

/-! ### Writing a chain and reading it back -/

theorem split_of_isEntry {entry : String} (isEntry : IsEntry entry) :
    split (some entry) = [entry] := by
  have filled : ¬ entry.toList.isEmpty = true := by
    intro empty
    exact isEntry.filled (String.toList_eq_nil_iff.mp (List.isEmpty_iff.mp empty))
  rw [split, scanEntries_of_noComma isEntry.noComma, isEntry.trimmed, closeEntry, if_neg filled,
    String.ofList_toList]

/-- A chain of entries that is written into a header value is read back from it. -/
theorem read_write {chain : List String} (entries : ∀ entry ∈ chain, IsEntry entry) :
    read [write chain] = chain := by
  rw [read_eq_flatMap, List.flatMap_singleton]
  induction chain with
  | nil => rfl
  | cons entry rest inductionHypothesis =>
      have isEntry := entries entry List.mem_cons_self
      have readBack := inductionHypothesis fun other member =>
        entries other (List.mem_cons_of_mem entry member)
      cases rest with
      | nil => rw [write, String.intercalate_singleton, split_of_isEntry isEntry]
      | cons next others =>
          have joined : write (entry :: next :: others) =
              entry ++ "," ++ (" " ++ write (next :: others)) := by
            rw [write, String.intercalate_cons_cons, ← String.append_assoc, write]
            congr 1
            rw [String.append_assoc]
            rfl
          have blank : split (some (" " ++ write (next :: others))) =
              split (some (write (next :: others))) := by
            rw [split, split, String.toList_append]
            exact scanEntries_blank (by decide) (by decide) _
          rw [joined, split_append_comma, split_of_isEntry isEntry, blank, readBack,
            List.singleton_append]

theorem write_ne_empty {chain : List String} (entries : ∀ entry ∈ chain, IsEntry entry)
    (filled : chain ≠ []) : write chain ≠ "" := by
  intro empty
  have readBack := read_write entries
  rw [empty] at readBack
  exact filled readBack.symm

/-! ### Parts between commas -/

/-- The parts of a value between its commas: texts without commas that commas join to the value. -/
structure IsCutAtCommas (value : String) (parts : List String) : Prop where
  filled : parts ≠ []
  uncut : ∀ part ∈ parts, ',' ∉ part.toList
  joined : ",".intercalate parts = value

section Cut

variable {value : String} {parts : List String}

/-- There is exactly one way to cut a value at its commas. -/
theorem isCutAtCommas_iff :
    IsCutAtCommas value parts ↔
      parts = (pieces (· == ',') value.toList).map String.ofList := by
  constructor
  · rintro ⟨filled, uncut, joined⟩
    have letters : [','].intercalate (parts.map String.toList) = value.toList := by
      rw [← joined, String.toList_intercalate]
      rfl
    have absent : ∀ part ∈ parts.map String.toList, ',' ∉ part := by
      intro part member
      obtain ⟨text, isPart, same⟩ := List.mem_map.mp member
      exact same ▸ uncut text isPart
    have cut := pieces_intercalate (by simpa using filled) absent
    rw [← letters, cut, List.map_map]
    simp
  · intro same
    subst same
    refine ⟨by simpa using pieces_ne_nil _ _, ?_, ?_⟩
    · intro part member comma
      obtain ⟨piece, isPiece, same⟩ := List.mem_map.mp member
      rw [← same, String.toList_ofList] at comma
      exact absurd (mem_of_mem_pieces isPiece comma).2 (by decide)
    · have letters : ((pieces (· == ',') value.toList).map String.ofList).map String.toList =
          pieces (· == ',') value.toList := by
        rw [List.map_map]
        simp
      apply String.toList_inj.mp
      rw [String.toList_intercalate, letters]
      exact intercalate_pieces ',' value.toList

theorem closeEntry_eq_filter (piece : List Char) :
    closeEntry piece = [String.ofList piece].filter (· != "") := by
  cases piece with
  | nil => rfl
  | cons first rest => simp [closeEntry]

/-- The entries of a value are its parts without the blanks around them, but for empty ones. -/
theorem split_of_isCutAtCommas (cut : IsCutAtCommas value parts) :
    split (some value) = (parts.map stripText).filter (· != "") := by
  rw [isCutAtCommas_iff.mp cut, split_eq_flatMap]
  induction pieces (· == ',') value.toList with
  | nil => rfl
  | cons piece rest inductionHypothesis =>
      have stripped : stripText (String.ofList piece) = String.ofList (strip piece) := by
        rw [stripText, String.toList_ofList]
      rw [List.flatMap_cons, inductionHypothesis, closeEntry_eq_filter, ← stripped,
        ← List.filter_append]
      rfl

theorem isEntry_of_mem_split {entry : String} (member : entry ∈ split (some value)) :
    IsEntry entry := by
  have single : read [value] = split (some value) := by
    rw [read_eq_flatMap, List.flatMap_singleton]
  exact isEntry_of_mem_read (single ▸ member)

end Cut

/-- Exactly the chains of entries are read back from the value they are written into. -/
theorem read_write_eq_iff {chain : List String} :
    read [write chain] = chain ↔ ∀ entry ∈ chain, IsEntry entry := by
  constructor
  · intro same entry member
    exact isEntry_of_mem_read (same ▸ member)
  · exact read_write

/-- The entries of a value are what stands between its commas, which is determined by the value,
without the blanks around it and without empty texts; so that an entry is a text that is not
empty, holds no comma and has no blanks around it. Exactly the chains of such texts are read back
from the value they are written into. -/
theorem entries_between_commas :
    (∀ value, ∃ parts, IsCutAtCommas value parts ∧
        (∀ others, IsCutAtCommas value others → others = parts) ∧
        split (some value) = (parts.map stripText).filter (· != "") ∧
        ∀ entry ∈ split (some value), IsEntry entry) ∧
      ∀ chain, read [write chain] = chain ↔ ∀ entry ∈ chain, IsEntry entry := by
  refine ⟨fun value => ?_, fun chain => read_write_eq_iff⟩
  have cut : IsCutAtCommas value ((pieces (· == ',') value.toList).map String.ofList) :=
    isCutAtCommas_iff.mpr rfl
  exact ⟨_, cut, fun others other => isCutAtCommas_iff.mp other, split_of_isCutAtCommas cut,
    fun entry member => isEntry_of_mem_split member⟩

/-- Blanks of several scripts around entries, and one inside an entry. -/
theorem spacedChain_entries :
    split (some "\u2003a b\t,, \x1f,c") = ["a b", "c"] ∧ IsEntry "a b" ∧
      read [write ["a b", "c"]] = ["a b", "c"] := by
  obtain ⟨cuts, returns⟩ := entries_between_commas
  obtain ⟨parts, -, unique, entries, areEntries⟩ := cuts "\u2003a b\t,, \x1f,c"
  have isCut : IsCutAtCommas "\u2003a b\t,, \x1f,c" ["\u2003a b\t", "", " \x1f", "c"] :=
    ⟨by decide, by decide, by decide⟩
  rw [← unique _ isCut] at entries
  have found : split (some "\u2003a b\t,, \x1f,c") = ["a b", "c"] := entries.trans (by decide)
  rw [found] at areEntries
  exact ⟨found, areEntries "a b" (by simp), (returns ["a b", "c"]).mpr areEntries⟩

end ForwardedClient.Chain
