import ForwardedClient.Forwarded.DirectiveMap
import ForwardedClient.Proofs.Forwarded.Scan

/-!
Contract: what each part of a Forwarded header adds to the collected directives.

Owns: the entries and the values of a map after a change, and the values of a directive as what
the raw pairs contribute to it one by one.

Does not own: which of the values count.
-/

namespace ForwardedClient.Forwarded

open ForwardedClient.Journal
open ForwardedClient.Text

namespace DirectiveMap

/-! ### The values of a directive -/

/-- Changing one directive changes its values and no others; one that was absent had none. -/
theorem values_modifyEntry (entries : List (String × List String)) (directive name : String)
    (change : List String → List String) :
    (⟨modifyEntry directive change entries⟩ : DirectiveMap).values name =
      if directive = name then change ((⟨entries⟩ : DirectiveMap).values name)
      else (⟨entries⟩ : DirectiveMap).values name := by
  simp only [values, find?]
  induction entries with
  | nil =>
      by_cases same : directive = name <;> simp [modifyEntry, same]
  | cons entry rest inductionHypothesis =>
      unfold modifyEntry
      by_cases here : entry.1 = directive
      · by_cases same : directive = name
        · simp [here, same]
        · simp [here, same]
      · by_cases same : entry.1 = name
        · have other : directive ≠ name := fun equal => here (same.trans equal.symm)
          simp [same, other, other.symm]
        · simpa [here, same] using inductionHypothesis

theorem values_add (map : DirectiveMap) (directive value name : String) :
    (map.add directive value).values name =
      if directive = name then map.values name ++ [value] else map.values name :=
  values_modifyEntry map.entries directive name (· ++ [value])

theorem values_set (map : DirectiveMap) (directive name : String) (others : List String) :
    (map.set directive others).values name =
      if directive = name then others else map.values name :=
  values_modifyEntry map.entries directive name fun _ => others

theorem values_erase (map : DirectiveMap) (directive name : String) :
    (map.erase directive).values name = if directive = name then [] else map.values name := by
  unfold values find? erase
  by_cases same : directive = name
  · have absent : (map.entries.filter (·.1 != directive)).find? (·.1 == name) = none := by
      rw [List.find?_eq_none]
      intro entry member
      simpa [same] using (List.mem_filter.mp member).2
    rw [absent, if_pos same]
    rfl
  · rw [if_neg same, List.find?_filter]
    congr 3
    funext entry
    by_cases here : entry.1 = name
    · simp [here, Ne.symm same]
    · simp [here]

theorem values_replace (map : DirectiveMap) (directive name : String) (others : List String) :
    (map.replace directive others).values name =
      if directive = name then others else map.values name := by
  unfold replace
  by_cases empty : others.isEmpty = true
  · rw [if_pos empty, values_erase, List.isEmpty_iff.mp empty]
  · rw [if_neg empty, values_set]

/-- The values of a directive stand in its entry. -/
theorem mem_entries_of_mem_values {map : DirectiveMap} {name value : String}
    (member : value ∈ map.values name) :
    ∃ entry ∈ map.entries, entry.1 = name ∧ value ∈ entry.2 := by
  unfold values find? at member
  cases found : map.entries.find? (·.1 == name) with
  | none => simp [found] at member
  | some entry =>
      rw [found] at member
      have named : entry.1 = name := by simpa using List.find?_some found
      exact ⟨entry, List.mem_of_find?_eq_some found, named, member⟩

/-- An entry after a change was there before, or is the changed one. -/
theorem mem_modifyEntry {entries : List (String × List String)} {directive : String}
    {change : List String → List String} {entry : String × List String}
    (member : entry ∈ modifyEntry directive change entries) :
    entry ∈ entries ∨ entry.1 = directive ∧
      (entry.2 = change [] ∨ ∃ old ∈ entries, old.1 = directive ∧ entry.2 = change old.2) := by
  induction entries with
  | nil =>
      rw [modifyEntry, List.mem_singleton] at member
      subst member
      exact Or.inr ⟨rfl, Or.inl rfl⟩
  | cons first rest inductionHypothesis =>
      rw [modifyEntry] at member
      split at member
      · rename_i here
        rcases List.mem_cons.mp member with same | later
        · subst same
          exact Or.inr ⟨rfl, Or.inr ⟨first, List.mem_cons_self, by simpa using here, rfl⟩⟩
        · exact Or.inl (List.mem_cons_of_mem first later)
      · rcases List.mem_cons.mp member with same | later
        · exact Or.inl (same ▸ List.mem_cons_self)
        · rcases inductionHypothesis later with kept | ⟨named, changed⟩
          · exact Or.inl (List.mem_cons_of_mem first kept)
          · refine Or.inr ⟨named, changed.imp_right ?_⟩
            rintro ⟨old, place, same⟩
            exact ⟨old, List.mem_cons_of_mem first place, same⟩

theorem mem_replace {map : DirectiveMap} {directive : String} {others : List String}
    {entry : String × List String} (member : entry ∈ (map.replace directive others).entries) :
    entry ∈ map.entries ∨ entry = (directive, others) := by
  unfold replace at member
  split at member
  · exact Or.inl ((List.mem_filter.mp member).1)
  · rcases mem_modifyEntry member with kept | ⟨named, fresh | ⟨_, -, -, same⟩⟩
    · exact Or.inl kept
    · exact Or.inr (Prod.ext named fresh)
    · exact Or.inr (Prod.ext named same)

/-- What one raw pair adds to the values of a directive. -/
def contribution (name : String) (pair : String × String) : Option String :=
  ((normalize pair.1 pair.2).1.filter fun entry => entry.1 == name).map (·.2)

theorem values_addPair (state : DirectiveMap × List Report) (pair : String × String)
    (name : String) :
    (addPair state pair).1.values name =
      state.1.values name ++ (contribution name pair).toList := by
  unfold addPair contribution
  rcases normalize pair.1 pair.2 with ⟨entry, reports⟩
  cases entry with
  | none => simp
  | some entry =>
      rw [values_add]
      by_cases same : entry.1 = name <;> simp [Option.filter, same]

/-- The values of a directive are what the pairs contribute, in order. -/
theorem values_foldl_addPair (state : DirectiveMap × List Report)
    (raw : List (String × String)) (name : String) :
    (raw.foldl addPair state).1.values name =
      state.1.values name ++ raw.filterMap (contribution name) := by
  induction raw generalizing state with
  | nil => simp
  | cons pair rest inductionHypothesis =>
      rw [List.foldl_cons, inductionHypothesis, values_addPair, List.append_assoc]
      cases added : contribution name pair with
      | none => rw [List.filterMap_cons_none added, Option.toList_none, List.nil_append]
      | some value => rw [List.filterMap_cons_some added, Option.toList_some, List.singleton_append]

theorem values_read (values : List String) (name : String) :
    (read values).1.values name = (values.flatMap pairs).filterMap (contribution name) := by
  rw [read, values_foldl_addPair]
  rfl

/-- What stands left of a comma adds its values in front of those of the right. -/
theorem values_read_append_comma (left right name : String) :
    (read [left ++ "," ++ right]).1.values name =
      (read [left ++ ","]).1.values name ++ (read [right]).1.values name := by
  simp only [values_read, List.flatMap_cons, List.flatMap_nil, List.append_nil,
    pairs_append_comma left right, List.filterMap_append]

/-- An earlier occurrence of the header adds its values in front of those of the others. -/
theorem values_read_cons (first : String) (rest : List String) (name : String) :
    (read (first :: rest)).1.values name =
      (read [first]).1.values name ++ (read rest).1.values name := by
  simp only [values_read, List.flatMap_cons, List.flatMap_nil, List.append_nil,
    List.filterMap_append]

end DirectiveMap

end ForwardedClient.Forwarded
