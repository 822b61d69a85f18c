import ForwardedClient.Proofs.Forwarded.Latin
import ForwardedClient.Proofs.Forwarded.Occurrences

/-!
Contract: a Forwarded header without the pairs of one directive.

Owns: `withoutDirective`, which leaves nothing of such a pair between its separators, and the law
that it takes the values of that directive and leaves those of the others.

Does not own: which directive that is, and why.
-/

namespace ForwardedClient.Forwarded

open ForwardedClient.Text

/-! ### The text -/

/-- The key of a pair as the scanner reads it, in lower case. -/
def keyOf (piece : List Char) : String := lower (piece.foldl Scan.push {}).pair.1

/-- A piece between separators, or nothing if it is a pair of the directive. -/
def keep (name : String) (piece : List Char) : List Char :=
  if keyOf piece = name then [] else piece

/-- The rest of a value without the pairs of a directive, after a piece that has begun. All
separators stay. -/
def omitFrom (name : String) (piece : List Char) : List Char → List Char
  | [] => keep name piece
  | char :: rest =>
    if isBreak char then keep name piece ++ char :: omitFrom name [] rest
    else omitFrom name (piece ++ [char]) rest

theorem mem_of_mem_keep {name : String} {piece : List Char} {char : Char}
    (member : char ∈ keep name piece) : char ∈ piece := by
  unfold keep at member
  split at member
  · exact absurd member List.not_mem_nil
  · exact member

/-- Nothing is added. -/
theorem mem_of_mem_omitFrom {name : String} {piece text : List Char} {char : Char}
    (member : char ∈ omitFrom name piece text) : char ∈ piece ∨ char ∈ text := by
  induction text generalizing piece with
  | nil => exact Or.inl (mem_of_mem_keep member)
  | cons first rest inductionHypothesis =>
      rw [omitFrom] at member
      split at member
      · rcases List.mem_append.mp member with kept | later
        · exact Or.inl (mem_of_mem_keep kept)
        · rcases List.mem_cons.mp later with same | inside
          · exact Or.inr (same ▸ List.mem_cons_self)
          · exact Or.inr (List.mem_cons_of_mem first
              ((inductionHypothesis inside).resolve_left List.not_mem_nil))
      · rcases inductionHypothesis member with begun | inside
        · rcases List.mem_append.mp begun with old | new
          · exact Or.inl old
          · exact Or.inr (List.mem_singleton.mp new ▸ List.mem_cons_self)
        · exact Or.inr (List.mem_cons_of_mem first inside)

/-- A header value without the pairs of a directive. -/
def withoutDirective (name : String) (value : LatinText) : LatinText where
  text := String.ofList (omitFrom name [] value.text.toList)
  latin := by
    rw [String.toList_ofList, List.all_eq_true]
    intro char member
    exact value.isLatin_text char ((mem_of_mem_omitFrom member).resolve_left List.not_mem_nil)

/-! ### The values -/

namespace DirectiveMap

theorem directive_of_normalize {key value directive spelled : String}
    (contributed : (normalize key value).1 = some (directive, spelled)) :
    directive = lower key := by
  unfold normalize at contributed
  simp only at contributed
  split at contributed
  · exact nomatch contributed
  · -- All branches record the same word, so it gets a name before they are split.
    generalize (if lower key == "for" && value.toList.head? == some '[' then
      unbracket value else (value, [])) = word at contributed
    split at contributed <;> split at contributed
    · exact nomatch contributed
    · exact (congrArg Prod.fst (Option.some.inj contributed)).symm
    · exact (congrArg Prod.fst (Option.some.inj contributed)).symm
    · exact nomatch contributed

/-- A pair contributes to the directive that is its key, and to no other. -/
theorem contribution_of_ne {name : String} {pair : String × String} (other : lower pair.1 ≠ name) :
    contribution name pair = none := by
  unfold contribution
  rw [Option.map_eq_none_iff, Option.filter_eq_none_iff]
  rintro ⟨directive, spelled⟩ contributed
  rw [directive_of_normalize contributed, beq_iff_eq]
  exact other

theorem contribution_of_unfinished (name : String) {pair : String × String}
    (unfinished : pair.1 = "" ∨ pair.2 = "") : contribution name pair = none := by
  rw [contribution, normalize_of_unfinished unfinished]
  rfl

/-- What a piece contributes before a separator, if it is kept. -/
theorem contribution_keep (name other : String) (piece : List Char) :
    contribution other ((keep name piece).foldl Scan.push {}).pair =
      if other = name then none else contribution other (piece.foldl Scan.push {}).pair := by
  have nothing : contribution other (([] : List Char).foldl Scan.push {}).pair = none :=
    contribution_of_unfinished other (Or.inl rfl)
  unfold keep
  by_cases named : keyOf piece = name
  · rw [if_pos named, nothing]
    split
    · rfl
    · rename_i differ
      exact (contribution_of_ne fun same => differ (same.symm.trans named)).symm
  · rw [if_neg named]
    split
    · rename_i same
      exact contribution_of_ne fun equal => named (equal.trans same)
    · rfl

/-- The last piece counts without a separator if it is a pair with a key and a value. -/
theorem filterMap_contribution_run (name : String) {piece : List Char}
    (absent : ∀ char ∈ piece, isBreak char = false) :
    (Scan.run {} piece).filterMap (contribution name) =
      (contribution name (piece.foldl Scan.push {}).pair).toList := by
  rw [Scan.run_of_noBreak absent]
  split
  · rename_i unfinished
    rw [Bool.or_eq_true, List.isEmpty_iff, List.isEmpty_iff] at unfinished
    have empty : contribution name (piece.foldl Scan.push {}).pair = none :=
      contribution_of_unfinished name
        (unfinished.imp (congrArg String.ofList ·) (congrArg String.ofList ·))
    rw [empty]
    rfl
  · cases contributed : contribution name (piece.foldl Scan.push {}).pair <;>
      simp [contributed]

/-- By induction on the rest of a value: what was read before it is a piece without separators. -/
theorem filterMap_contribution_omitFrom (name other : String) {piece : List Char}
    (absent : ∀ char ∈ piece, isBreak char = false) (text : List Char) :
    (Scan.run {} (omitFrom name piece text)).filterMap (contribution other) =
      if other = name then []
      else (Scan.run {} (piece ++ text)).filterMap (contribution other) := by
  induction text generalizing piece with
  | nil =>
      have kept : ∀ char ∈ keep name piece, isBreak char = false :=
        fun char member => absent char (mem_of_mem_keep member)
      rw [omitFrom, filterMap_contribution_run other kept, contribution_keep, List.append_nil,
        filterMap_contribution_run other absent]
      split <;> rfl
  | cons char rest inductionHypothesis =>
      rw [omitFrom]
      by_cases ends : isBreak char = true
      · have kept : ∀ char ∈ keep name piece, isBreak char = false :=
          fun char member => absent char (mem_of_mem_keep member)
        have fresh := @inductionHypothesis [] (by simp)
        rw [if_pos ends, Scan.run_append_break ends kept, Scan.run_append_break ends absent,
          List.filterMap_cons, List.filterMap_cons, contribution_keep, fresh, List.nil_append]
        by_cases same : other = name
        · simp only [if_pos same]
        · simp only [if_neg same]
      · have longer : ∀ letter ∈ piece ++ [char], isBreak letter = false := by
          intro letter member
          rcases List.mem_append.mp member with old | new
          · exact absent letter old
          · rw [List.mem_singleton.mp new]
            simpa using ends
        rw [if_neg ends, inductionHypothesis longer, List.append_assoc]
        rfl

/-- A header without the pairs of a directive has no values of that directive, and all values of the
others. -/
theorem values_read_withoutDirective (name other : String) (values : List LatinText) :
    (read (values.map fun value => (withoutDirective name value).text)).1.values other =
      if other = name then [] else (read (values.map (·.text))).1.values other := by
  rw [values_read, values_read]
  induction values with
  | nil => simp
  | cons value rest inductionHypothesis =>
      have own := @filterMap_contribution_omitFrom name other [] (by simp) value.text.toList
      have read : pairs (withoutDirective name value).text =
          Scan.run {} (omitFrom name [] value.text.toList) := by
        rw [pairs, withoutDirective, String.toList_ofList]
      simp only [List.map_cons, List.flatMap_cons, List.filterMap_append, inductionHypothesis, read,
        own, List.nil_append]
      split
      · rfl
      · rfl

end DirectiveMap

end ForwardedClient.Forwarded
