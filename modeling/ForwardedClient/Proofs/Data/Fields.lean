import ForwardedClient.Data.Basic
import Mathlib.Algebra.Ring.Nat

/-!
Contract: named values whose names are distinct.

Owns: that setting and updating keep names distinct, what is found after an update, and that such
fields are told by what is found under their names; how a sum over fields splits at one of them.

Does not own: how values are written.
-/

namespace ForwardedClient.Data.Fields

variable {foreign : Prop}

def HasDistinctNames (fields : Fields foreign) : Prop := (fields.map (·.1)).Nodup

/-- The last value under a name, the one that an update with these fields leaves. -/
def last? (fields : Fields foreign) (name : String) : Option (Datum foreign) :=
  find? fields.reverse name

section Lookup

variable {fields updates : Fields foreign} {name other : String} {value : Datum foreign}

theorem find?_cons (field : String × Datum foreign) (rest : Fields foreign) (name : String) :
    find? (field :: rest) name = if field.1 = name then some field.2 else find? rest name := by
  by_cases here : field.1 = name <;> simp [find?, here]

theorem find?_eq_none_iff : find? fields name = none ↔ name ∉ fields.map (·.1) := by
  rw [find?, Option.map_eq_none_iff, List.find?_eq_none]
  simp only [beq_iff_eq, List.mem_map, not_exists, not_and]

theorem mem_of_find? (found : find? fields name = some value) : (name, value) ∈ fields := by
  induction fields with
  | nil => exact absurd found (by simp [find?])
  | cons field rest inductionHypothesis =>
      rw [find?_cons] at found
      split at found
      · rename_i here
        exact List.mem_cons.mpr (.inl (Prod.ext here.symm (Option.some.inj found).symm))
      · exact List.mem_cons_of_mem field (inductionHypothesis found)

/-- What stands under a name that no other field has is what is found. -/
theorem find?_of_mem (distinct : HasDistinctNames fields) (member : (name, value) ∈ fields) :
    find? fields name = some value := by
  induction fields with
  | nil => exact absurd member List.not_mem_nil
  | cons field rest inductionHypothesis =>
      obtain ⟨absent, later⟩ := List.nodup_cons.mp distinct
      rw [find?_cons]
      rcases List.mem_cons.mp member with same | inRest
      · rw [← same, if_pos rfl]
      · have elsewhere : field.1 ≠ name := by
          rintro rfl
          exact absent (List.mem_map.mpr ⟨_, inRest, rfl⟩)
        rw [if_neg elsewhere]
        exact inductionHypothesis later inRest

theorem find?_append (front back : Fields foreign) (name : String) :
    find? (front ++ back) name = (find? front name).or (find? back name) := by
  induction front with
  | nil => rfl
  | cons field rest inductionHypothesis =>
      rw [List.cons_append, find?_cons, find?_cons, inductionHypothesis]
      split <;> rfl

theorem last?_eq_none_iff : last? fields name = none ↔ name ∉ fields.map (·.1) := by
  rw [last?, find?_eq_none_iff, List.map_reverse, List.mem_reverse]

theorem last?_cons (field : String × Datum foreign) (rest : Fields foreign) (name : String) :
    last? (field :: rest) name =
      (last? rest name).or (if field.1 = name then some field.2 else none) := by
  rw [last?, List.reverse_cons, find?_append, find?_cons]
  rfl

theorem last?_append (front back : Fields foreign) (name : String) :
    last? (front ++ back) name = (last? back name).or (last? front name) := by
  rw [last?, List.reverse_append, find?_append, last?, last?]

theorem find?_map (change : Datum foreign → Datum foreign) (fields : Fields foreign)
    (name : String) :
    find? (fields.map fun field => (field.1, change field.2)) name =
      (find? fields name).map change := by
  induction fields with
  | nil => rfl
  | cons field rest inductionHypothesis =>
      rw [List.map_cons, find?_cons, find?_cons, inductionHypothesis]
      split <;> rfl

theorem last?_map (change : Datum foreign → Datum foreign) (fields : Fields foreign)
    (name : String) :
    last? (fields.map fun field => (field.1, change field.2)) name =
      (last? fields name).map change := by
  rw [last?, ← List.map_reverse, find?_map, last?]

/-- Where names are distinct there is no later value. -/
theorem last?_eq_find? (distinct : HasDistinctNames fields) (name : String) :
    last? fields name = find? fields name := by
  have reversed : HasDistinctNames fields.reverse := by
    rw [HasDistinctNames, List.map_reverse]
    exact List.pairwise_reverse.mpr (distinct.imp Ne.symm)
  cases found : find? fields name with
  | some value => exact find?_of_mem reversed (List.mem_reverse.mpr (mem_of_find? found))
  | none =>
      exact last?_eq_none_iff.mpr (find?_eq_none_iff.mp found)

end Lookup

section Updates

variable {fields updates : Fields foreign} {name other : String} {value : Datum foreign}

theorem map_set (fields : Fields foreign) (name : String) (value : Datum foreign) :
    (set fields name value).map (·.1) =
      if name ∈ fields.map (·.1) then fields.map (·.1) else fields.map (·.1) ++ [name] := by
  induction fields with
  | nil => rfl
  | cons field rest inductionHypothesis =>
      by_cases here : field.1 = name
      · simp [set, here]
      · have elsewhere : name ≠ field.1 := fun same => here same.symm
        have unequal : ¬ (field.1 == name) = true := by simpa using here
        rw [set, if_neg unequal, List.map_cons, inductionHypothesis]
        by_cases later : name ∈ rest.map (·.1) <;> simp [later, elsewhere]

theorem hasDistinctNames_set (distinct : HasDistinctNames fields) :
    HasDistinctNames (set fields name value) := by
  rw [HasDistinctNames, map_set]
  split
  · exact distinct
  · rename_i absent
    exact List.nodup_append.mpr ⟨distinct, by simp, by
      intro former known latter isName same
      rw [List.mem_singleton] at isName
      exact absent (isName ▸ same ▸ known)⟩

theorem hasDistinctNames_update (distinct : HasDistinctNames fields) (updates : Fields foreign) :
    HasDistinctNames (update fields updates) := by
  induction updates generalizing fields with
  | nil => exact distinct
  | cons field rest inductionHypothesis => exact inductionHypothesis (hasDistinctNames_set distinct)

/-- An update leaves the last value that it has under a name, and else what there was. -/
theorem find?_update (fields updates : Fields foreign) (name : String) :
    find? (update fields updates) name = (last? updates name).or (find? fields name) := by
  induction updates generalizing fields with
  | nil => rfl
  | cons field rest inductionHypothesis =>
      have unfolded :
          update fields (field :: rest) = update (set fields field.1 field.2) rest := rfl
      rw [unfolded, inductionHypothesis, find?_set, last?_cons, Option.or_assoc]
      split <;> rfl

theorem mem_map_update :
    name ∈ (update fields updates).map (·.1) ↔
      name ∈ updates.map (·.1) ∨ name ∈ fields.map (·.1) := by
  rw [← Decidable.not_iff_not, ← find?_eq_none_iff, find?_update, Option.or_eq_none_iff,
    last?_eq_none_iff, find?_eq_none_iff, not_or]

end Updates

section Sums

variable {fields : Fields foreign} {name : String} {value former : Datum foreign}

theorem erase_of_absent (absent : name ∉ fields.map (·.1)) : erase fields name = fields := by
  rw [erase, List.filter_eq_self]
  intro field member
  simpa using fun same : field.1 = name => absent (same ▸ List.mem_map.mpr ⟨field, member, rfl⟩)

theorem erase_cons (field : String × Datum foreign) (rest : Fields foreign) (name : String) :
    erase (field :: rest) name =
      if field.1 = name then erase rest name else field :: erase rest name := by
  by_cases here : field.1 = name <;> simp [erase, here]

/-- A sum over fields is that over the others and one summand for the field under a name. -/
theorem sum_eq_erase (width : String × Datum foreign → Nat) (distinct : HasDistinctNames fields)
    (found : find? fields name = some value) :
    (fields.map width).sum = ((erase fields name).map width).sum + width (name, value) := by
  induction fields with
  | nil => exact absurd found (by simp [find?])
  | cons field rest inductionHypothesis =>
      obtain ⟨absent, later⟩ := List.nodup_cons.mp distinct
      rw [find?_cons] at found
      rw [erase_cons]
      split at found
      · rename_i here
        have same : field = (name, value) := Prod.ext here (Option.some.inj found)
        rw [if_pos here, erase_of_absent (here ▸ absent), List.map_cons, List.sum_cons, same,
          Nat.add_comm]
      · rename_i elsewhere
        rw [if_neg elsewhere, List.map_cons, List.sum_cons, List.map_cons, List.sum_cons,
          inductionHypothesis later found, Nat.add_assoc]

theorem erase_set (fields : Fields foreign) (name : String) (value : Datum foreign) :
    erase (set fields name value) name = erase fields name := by
  induction fields with
  | nil => simp [set, erase]
  | cons field rest inductionHypothesis =>
      by_cases here : field.1 = name
      · simp [set, erase, here]
      · have unequal : ¬ (field.1 == name) = true := by simpa using here
        rw [set, if_neg unequal, erase_cons, erase_cons, if_neg here, if_neg here,
          inductionHypothesis]

end Sums

end ForwardedClient.Data.Fields
