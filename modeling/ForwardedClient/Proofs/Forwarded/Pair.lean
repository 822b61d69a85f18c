import ForwardedClient.Proofs.Forwarded.DirectiveMap
import ForwardedClient.Proofs.Forwarded.Node

/-!
Contract: the pairs of a map are scanned from the header it was written into.

Owns: the texts that yield their pairs wherever they stand, the values that are scanned whole, and
the pairs of a written map.

Does not own: what the pairs contribute to the map that is read.
-/

namespace ForwardedClient.Forwarded

open ForwardedClient.Text

/-! ### Texts that yield pairs -/

/-- A text that yields its pairs wherever it stands: alone, or in front of a character that ends
its last pair. -/
structure Yields (text : String) (found : List (String × String)) : Prop where
  alone : pairs text = found
  ended : ∀ mark rest, isBreak mark = true →
    Scan.run {} (text.toList ++ mark :: rest) = found ++ Scan.run {} rest

/-- A value as it is shown: as it is, or between quotes. -/
def IsShownAs (value shown : String) : Prop := shown = value ∨ shown = "\"" ++ value ++ "\""

section Shown

variable {value shown : String}

theorem noBreak_of_isShownAs (shows : IsShownAs value shown)
    (plain : ∀ char ∈ value.toList, isPlain char = true) :
    ∀ char ∈ shown.toList, isBreak char = false := by
  intro char member
  rcases shows with same | same
  · exact isBreak_of_isPlain (plain char (same ▸ member))
  · rw [same, String.toList_append, String.toList_append, List.mem_append,
      List.mem_append] at member
    rcases member with (opening | inside) | closing
    · rw [List.mem_singleton.mp opening]
      decide
    · exact isBreak_of_isPlain (plain char inside)
    · rw [List.mem_singleton.mp closing]
      decide

/-- The value is the same with and without quotes, because the scanner drops them. -/
theorem foldl_push_shown (shows : IsShownAs value shown)
    (plain : ∀ char ∈ value.toList, isPlain char = true) {scan : Scan}
    (inValue : scan.inKey = false) :
    shown.toList.foldl Scan.push scan = { scan with value := scan.value ++ value.toList } := by
  have pushed := (@Scan.foldl_push scan value.toList plain).trans (if_neg (by simp [inValue]))
  rcases shows with same | same
  · rw [same]
    exact pushed
  · rw [same, String.toList_append, String.toList_append, List.foldl_append, List.foldl_append]
    exact congrArg (fun scan => Scan.push scan '"') pushed

/-- A name, an equals sign and a value yield their pair. -/
theorem yields_pair {name : String} (nameFilled : name ≠ "") (valueFilled : value ≠ "")
    (namePlain : ∀ char ∈ name.toList, isPlain char = true)
    (valuePlain : ∀ char ∈ value.toList, isPlain char = true) (shows : IsShownAs value shown) :
    Yields (name ++ "=" ++ shown) [(name, value)] := by
  have absent : ∀ char ∈ (name ++ "=" ++ shown).toList, isBreak char = false := by
    intro char member
    rw [String.toList_append, String.toList_append, List.mem_append, List.mem_append] at member
    rcases member with (inName | equals) | inShown
    · exact isBreak_of_isPlain (namePlain char inName)
    · rw [List.mem_singleton.mp equals]
      decide
    · exact noBreak_of_isShownAs shows valuePlain char inShown
  have scanned : (name ++ "=" ++ shown).toList.foldl Scan.push {} =
      ⟨name.toList, value.toList, false⟩ := by
    rw [String.toList_append, String.toList_append, List.foldl_append, List.foldl_append,
      Scan.foldl_push namePlain, if_pos rfl]
    exact @foldl_push_shown value shown shows valuePlain ⟨name.toList, [], false⟩ rfl
  have pair : (⟨name.toList, value.toList, false⟩ : Scan).pair = (name, value) := by
    simp only [Scan.pair, String.ofList_toList]
  refine ⟨?_, ?_⟩
  · have counts : ¬ (name.toList.isEmpty || value.toList.isEmpty) = true := by
      simp [nameFilled, valueFilled]
    rw [pairs, Scan.run_of_noBreak absent, scanned, if_neg counts, pair]
  · intro mark rest ends
    rw [Scan.run_append_break ends absent, scanned, pair]
    rfl

end Shown

/-- What stands between two texts: a character that ends a pair, and perhaps spaces. -/
def IsJoint (joint : String) : Prop :=
  ∃ mark spaces, joint.toList = mark :: spaces ∧ isBreak mark = true ∧
    ∀ char ∈ spaces, char = ' '

theorem Scan.run_spaces {spaces : List Char} (blank : ∀ char ∈ spaces, char = ' ')
    (rest : List Char) : Scan.run {} (spaces ++ rest) = Scan.run {} rest := by
  induction spaces with
  | nil => rfl
  | cons space others inductionHypothesis =>
      rw [blank space List.mem_cons_self]
      exact inductionHypothesis fun char member => blank char (List.mem_cons_of_mem space member)

theorem Yields.append {left right joint : String} {before after : List (String × String)}
    (first : Yields left before) (second : Yields right after) (isJoint : IsJoint joint) :
    Yields (left ++ joint ++ right) (before ++ after) := by
  obtain ⟨mark, spaces, spelled, ends, blank⟩ := isJoint
  have whole : (left ++ joint ++ right).toList =
      left.toList ++ mark :: (spaces ++ right.toList) := by
    rw [String.toList_append, String.toList_append, spelled, List.append_assoc]
    rfl
  refine ⟨?_, ?_⟩
  · rw [pairs, whole, first.ended mark _ ends, Scan.run_spaces blank]
    exact congrArg (before ++ ·) second.alone
  · intro final rest finalEnds
    rw [whole, List.append_assoc, List.cons_append, List.append_assoc, first.ended mark _ ends,
      Scan.run_spaces blank, second.ended final rest finalEnds, List.append_assoc]

theorem yields_intercalate {α : Type} {joint : String} (isJoint : IsJoint joint)
    (write : α → String) (found : α → List (String × String)) {items : List α}
    (each : ∀ item ∈ items, Yields (write item) (found item)) (filled : items ≠ []) :
    Yields (joint.intercalate (items.map write)) (items.flatMap found) := by
  induction items with
  | nil => exact absurd rfl filled
  | cons item rest inductionHypothesis =>
      have here := each item List.mem_cons_self
      cases rest with
      | nil =>
          rw [List.map_singleton, String.intercalate_singleton, List.flatMap_singleton]
          exact here
      | cons next others =>
          have later := inductionHypothesis (fun other member =>
            each other (List.mem_cons_of_mem item member)) (List.cons_ne_nil next others)
          rw [List.map_cons, List.map_cons, String.intercalate_cons_cons, List.flatMap_cons]
          exact here.append later isJoint

/-! ### Written maps -/

/-- A value as it stands after the equals sign, without its quotes. -/
def spell (name value : String) : String := if hasAddress name then spellNode value else value

/-- A value that the scanner reads whole. -/
structure IsClean (value : String) : Prop where
  filled : value ≠ ""
  plain : ∀ char ∈ value.toList, isPlain char = true

theorem IsClean.spell {value : String} (clean : IsClean value) (name : String) :
    IsClean (spell name value) := by
  unfold Forwarded.spell
  split
  · refine ⟨spellNode_ne_empty clean.filled, fun char member => ?_⟩
    rcases mem_spellNode member with inside | opening | closing
    · exact clean.plain char inside
    · exact opening ▸ by decide
    · exact closing ▸ by decide
  · exact clean

theorem cases_of_isKnown {name : String} (known : isKnown name = true) :
    name = "for" ∨ name = "by" ∨ name = "host" ∨ name = "proto" := by
  simp only [isKnown, Bool.or_eq_true, beq_iff_eq] at known
  rcases known with ((isFor | isBy) | isHost) | isProto
  · exact Or.inl isFor
  · exact Or.inr (Or.inl isBy)
  · exact Or.inr (Or.inr (Or.inl isHost))
  · exact Or.inr (Or.inr (Or.inr isProto))

theorem lower_of_isKnown {name : String} (known : isKnown name = true) : lower name = name := by
  rcases cases_of_isKnown known with same | same | same | same <;> subst same <;> decide +kernel

theorem isClean_of_isKnown {name : String} (known : isKnown name = true) : IsClean name := by
  rcases cases_of_isKnown known with same | same | same | same <;> subst same <;>
    exact ⟨by decide, List.all_eq_true.mp (by decide)⟩

theorem yields_writePair {name value : String} (known : isKnown name = true)
    (clean : IsClean value) : Yields (writePair name value) [(name, spell name value)] := by
  have named := isClean_of_isKnown known
  have spelled := clean.spell name
  refine yields_pair named.filled spelled.filled named.plain spelled.plain ?_
  rw [lower_of_isKnown known, spell]
  split
  · exact quoteNode_eq value
  · exact Or.inl rfl

namespace DirectiveMap

/-- The pairs of a written map are its values, each with its name. -/
theorem pairs_write {map : DirectiveMap} (named : ∀ entry ∈ map.entries, isKnown entry.1 = true)
    (filled : ∀ entry ∈ map.entries, entry.2 ≠ [])
    (clean : ∀ entry ∈ map.entries, ∀ value ∈ entry.2, IsClean value) :
    pairs map.write = map.entries.flatMap fun entry =>
      entry.2.map fun value => (entry.1, spell entry.1 value) := by
  have comma : IsJoint ", " := ⟨',', [' '], rfl, by decide, by simp⟩
  have semicolon : IsJoint ";" := ⟨';', [], rfl, by decide, by simp⟩
  by_cases empty : map.entries = []
  · rw [write, empty]
    rfl
  · have each : ∀ entry ∈ map.entries,
        Yields (String.intercalate ", " (entry.2.map (writePair entry.1)))
          (entry.2.map fun value => (entry.1, spell entry.1 value)) := by
      intro entry member
      have joined := yields_intercalate comma (writePair entry.1)
        (fun value => [(entry.1, spell entry.1 value)])
        (fun value inside =>
          yields_writePair (named entry member) (clean entry member value inside))
        (filled entry member)
      have listed : (entry.2.map fun value => (entry.1, spell entry.1 value)) =
          entry.2.flatMap fun value => [(entry.1, spell entry.1 value)] := List.map_eq_flatMap
      rw [listed]
      exact joined
    exact (yields_intercalate semicolon _ _ each empty).alone

end DirectiveMap

end ForwardedClient.Forwarded
