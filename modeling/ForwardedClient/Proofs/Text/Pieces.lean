import ForwardedClient.Text.Pieces

/-!
Contract: what cutting a text at separators keeps of it.

Owns: the laws of `partitionAt` on both sides of a separator, where the characters of a text are
after it was cut, how its pieces are joined again, and where its separators were.

Does not own: what the parts mean.
-/

namespace ForwardedClient.Text

variable {isSeparator : Char → Bool} {text before after : List Char}

/-- A text is cut at the first separator it has. -/
theorem partitionAt_append {separator : Char} (ends : isSeparator separator = true)
    (absent : ∀ char ∈ before, isSeparator char = false) (after : List Char) :
    partitionAt isSeparator (before ++ separator :: after) = (before, some after) := by
  induction before with
  | nil =>
      rw [List.nil_append, partitionAt, if_pos ends]
  | cons char rest inductionHypothesis =>
      have headAbsent : ¬ isSeparator char = true := by simp [absent char List.mem_cons_self]
      have restAbsent : ∀ other ∈ rest, isSeparator other = false :=
        fun other member => absent other (List.mem_cons_of_mem char member)
      rw [List.cons_append, partitionAt, if_neg headAbsent, inductionHypothesis restAbsent]

/-- What was cut can be put together again. -/
theorem partitionAt_some (cut : partitionAt isSeparator text = (before, some after)) :
    ∃ separator, isSeparator separator = true ∧ text = before ++ separator :: after ∧
      ∀ char ∈ before, isSeparator char = false := by
  induction text generalizing before with
  | nil => simp [partitionAt] at cut
  | cons char rest inductionHypothesis =>
      rw [partitionAt] at cut
      by_cases ends : isSeparator char = true
      · rw [if_pos ends] at cut
        injection cut with first second
        injection second with same
        subst first same
        exact ⟨char, ends, rfl, by simp⟩
      · rw [if_neg ends] at cut
        injection cut with first second
        obtain ⟨separator, isOne, split, absent⟩ := inductionHypothesis (Prod.ext rfl second)
        subst first
        refine ⟨separator, isOne, congrArg (List.cons char) split, ?_⟩
        intro other member
        rcases List.mem_cons.mp member with same | inside
        · rw [same]
          simpa using ends
        · exact absent other inside

/-- A text that is not cut is whole. -/
theorem partitionAt_none (whole : partitionAt isSeparator text = (before, none)) :
    before = text ∧ ∀ char ∈ text, isSeparator char = false := by
  induction text generalizing before with
  | nil =>
      simp only [partitionAt, Prod.mk.injEq, and_true] at whole
      exact ⟨whole.symm, by simp⟩
  | cons char rest inductionHypothesis =>
      rw [partitionAt] at whole
      by_cases ends : isSeparator char = true
      · rw [if_pos ends] at whole
        injection whole with _ second
        exact absurd second (by simp)
      · rw [if_neg ends] at whole
        injection whole with first second
        obtain ⟨same, absent⟩ := inductionHypothesis (Prod.ext rfl second)
        subst first
        refine ⟨congrArg (List.cons char) same, ?_⟩
        intro other member
        rcases List.mem_cons.mp member with same | inside
        · rw [same]
          simpa using ends
        · exact absent other inside

/-- Every character of a text is a separator or stands in one of its pieces. -/
theorem mem_pieces_of_mem (isSeparator : Char → Bool) {char : Char} (member : char ∈ text) :
    isSeparator char = true ∨ ∃ piece ∈ pieces isSeparator text, char ∈ piece := by
  induction text with
  | nil => simp at member
  | cons first rest inductionHypothesis =>
      unfold pieces
      by_cases ends : isSeparator first = true
      · rw [if_pos ends]
        rcases List.mem_cons.mp member with same | inside
        · exact Or.inl (same ▸ ends)
        · rcases inductionHypothesis inside with separator | ⟨piece, isPiece, here⟩
          · exact Or.inl separator
          · exact Or.inr ⟨piece, List.mem_cons_of_mem _ isPiece, here⟩
      · rw [if_neg ends]
        cases cut : pieces isSeparator rest with
        | nil => exact absurd cut (pieces_ne_nil isSeparator rest)
        | cons head others =>
            rcases List.mem_cons.mp member with same | inside
            · exact Or.inr ⟨first :: head, List.mem_cons_self, by simp [same]⟩
            · rcases inductionHypothesis inside with separator | ⟨piece, isPiece, here⟩
              · exact Or.inl separator
              · rw [cut] at isPiece
                rcases List.mem_cons.mp isPiece with same | other
                · refine Or.inr ⟨first :: head, List.mem_cons_self, ?_⟩
                  rw [← same]
                  exact List.mem_cons_of_mem first here
                · exact Or.inr ⟨piece, List.mem_cons_of_mem _ other, here⟩

/-- A text without separators is its only piece. -/
theorem pieces_of_absent (absent : ∀ char ∈ text, isSeparator char = false) :
    pieces isSeparator text = [text] := by
  induction text with
  | nil => rfl
  | cons char rest inductionHypothesis =>
      have headAbsent : ¬ isSeparator char = true := by simp [absent char List.mem_cons_self]
      rw [pieces, if_neg headAbsent,
        inductionHypothesis fun other member => absent other (List.mem_cons_of_mem char member)]

/-- A text falls apart at each of its separators. -/
theorem pieces_append_separator {separator : Char} (ends : isSeparator separator = true)
    (before after : List Char) :
    pieces isSeparator (before ++ separator :: after) =
      pieces isSeparator before ++ pieces isSeparator after := by
  induction before with
  | nil =>
      have cut : pieces isSeparator (separator :: after) = [] :: pieces isSeparator after := by
        rw [pieces, if_pos ends]
      exact cut
  | cons char rest inductionHypothesis =>
      rw [List.cons_append, pieces, pieces, inductionHypothesis]
      by_cases here : isSeparator char = true
      · rw [if_pos here, if_pos here, List.cons_append]
      · rw [if_neg here, if_neg here]
        cases cut : pieces isSeparator rest with
        | nil => exact absurd cut (pieces_ne_nil isSeparator rest)
        | cons first others => rfl

/-- A piece ends at the first separator. -/
theorem pieces_append {separator : Char} (ends : isSeparator separator = true)
    (absent : ∀ char ∈ before, isSeparator char = false) (after : List Char) :
    pieces isSeparator (before ++ separator :: after) = before :: pieces isSeparator after := by
  rw [pieces_append_separator ends, pieces_of_absent absent, List.singleton_append]

/-! ### Pieces and joins -/

/-- Pieces are the parts of a list between the members of a class. -/
theorem pieces_eq_splitOnP (isSeparator : Char → Bool) (text : List Char) :
    pieces isSeparator text = text.splitOnP isSeparator := by
  induction text with
  | nil => rfl
  | cons char rest inductionHypothesis =>
      rw [pieces, List.splitOnP_cons_eq_if_modifyHead, ← inductionHypothesis]
      by_cases ends : isSeparator char = true
      · rw [if_pos ends, if_pos ends]
      · rw [if_neg ends, if_neg ends]
        cases cut : pieces isSeparator rest with
        | nil => exact absurd cut (pieces_ne_nil isSeparator rest)
        | cons first others => rfl

/-- The pieces of a text, joined again, are the text. -/
theorem intercalate_pieces (separator : Char) (text : List Char) :
    [separator].intercalate (pieces (· == separator) text) = text := by
  rw [pieces_eq_splitOnP]
  exact List.intercalate_splitOn separator

/-- Parts that hold no separator are the pieces of what they are joined to. -/
theorem pieces_intercalate {separator : Char} {parts : List (List Char)} (filled : parts ≠ [])
    (absent : ∀ part ∈ parts, separator ∉ part) :
    pieces (· == separator) ([separator].intercalate parts) = parts := by
  rw [pieces_eq_splitOnP]
  exact List.splitOn_intercalate separator absent filled

/-- A join with an empty part at its end ends in the separator. -/
theorem intercalate_concat_nil (separator : Char) {parts : List (List Char)} (filled : parts ≠ []) :
    [separator].intercalate (parts ++ [[]]) = [separator].intercalate parts ++ [separator] := by
  induction parts with
  | nil => exact absurd rfl filled
  | cons part rest inductionHypothesis =>
      cases rest with
      | nil => simp
      | cons next others =>
          rw [List.cons_append, List.cons_append, List.intercalate_cons_cons, ← List.cons_append,
            inductionHypothesis (List.cons_ne_nil next others), List.intercalate_cons_cons]
          simp only [List.append_assoc]

/-! ### Separators among the pieces -/

/-- There is one piece more than there are separators. -/
theorem length_pieces (isSeparator : Char → Bool) (text : List Char) :
    (pieces isSeparator text).length = text.countP isSeparator + 1 := by
  induction text with
  | nil => rfl
  | cons char rest inductionHypothesis =>
      rw [pieces]
      by_cases ends : isSeparator char = true
      · rw [if_pos ends, List.length_cons, inductionHypothesis, List.countP_cons_of_pos ends]
      · rw [if_neg ends, List.countP_cons_of_neg ends, ← inductionHypothesis]
        cases cut : pieces isSeparator rest with
        | nil => exact absurd cut (pieces_ne_nil isSeparator rest)
        | cons first others => rfl

/-- A text has a single piece exactly if it holds no separator. -/
theorem pieces_eq_singleton_iff {piece : List Char} :
    pieces isSeparator text = [piece] ↔
      (∀ char ∈ text, isSeparator char = false) ∧ text = piece := by
  constructor
  · intro alone
    have single := length_pieces isSeparator text
    rw [alone, List.length_singleton, Nat.right_eq_add, List.countP_eq_zero] at single
    have absent : ∀ char ∈ text, isSeparator char = false :=
      fun char inside => Bool.eq_false_iff.mpr (single char inside)
    rw [pieces_of_absent absent] at alone
    exact ⟨absent, List.singleton_inj.mp alone⟩
  · rintro ⟨absent, rfl⟩
    exact pieces_of_absent absent

/-- Pieces hold characters of their text, and no separators. -/
theorem mem_of_mem_pieces {piece : List Char} {char : Char}
    (isPiece : piece ∈ pieces isSeparator text) (member : char ∈ piece) :
    char ∈ text ∧ isSeparator char = false := by
  induction text generalizing piece with
  | nil =>
      rw [pieces, List.mem_singleton] at isPiece
      rw [isPiece] at member
      exact absurd member List.not_mem_nil
  | cons first rest inductionHypothesis =>
      have later : ∀ {other : List Char}, other ∈ pieces isSeparator rest → char ∈ other →
          char ∈ first :: rest ∧ isSeparator char = false := by
        intro other isOther inside
        obtain ⟨here, plain⟩ := inductionHypothesis isOther inside
        exact ⟨List.mem_cons_of_mem first here, plain⟩
      rw [pieces] at isPiece
      by_cases ends : isSeparator first = true
      · rw [if_pos ends] at isPiece
        rcases List.mem_cons.mp isPiece with same | other
        · rw [same] at member
          exact absurd member List.not_mem_nil
        · exact later other member
      · rw [if_neg ends] at isPiece
        cases cut : pieces isSeparator rest with
        | nil => exact absurd cut (pieces_ne_nil isSeparator rest)
        | cons head others =>
            rw [cut] at isPiece later
            rcases List.mem_cons.mp isPiece with same | other
            · rw [same] at member
              rcases List.mem_cons.mp member with own | inside
              · rw [own]
                exact ⟨List.mem_cons_self, by simpa using ends⟩
              · exact later List.mem_cons_self inside
            · exact later (List.mem_cons_of_mem head other) member

/-- Where pieces follow each other, there is a separator between them. -/
theorem exists_separator_of_pieces {front back : List (List Char)}
    (split : pieces isSeparator text = front ++ back) (frontFilled : front ≠ [])
    (backFilled : back ≠ []) :
    ∃ before separator after, text = before ++ separator :: after ∧ isSeparator separator = true ∧
      pieces isSeparator before = front ∧ pieces isSeparator after = back := by
  induction text generalizing front with
  | nil =>
      rw [pieces, List.singleton_eq_append_iff] at split
      rcases split with ⟨empty, -⟩ | ⟨-, empty⟩
      · exact absurd empty frontFilled
      · exact absurd empty backFilled
  | cons char rest inductionHypothesis =>
      obtain ⟨first, others, rfl⟩ := List.exists_cons_of_ne_nil frontFilled
      by_cases ends : isSeparator char = true
      · rw [pieces, if_pos ends, List.cons_append, List.cons.injEq] at split
        by_cases alone : others = []
        · refine ⟨[], char, rest, rfl, ends, ?_, ?_⟩
          · rw [alone, ← split.1]
            rfl
          · rw [split.2, alone, List.nil_append]
        · obtain ⟨before, separator, after, spelled, separates, front, back⟩ :=
            inductionHypothesis split.2 alone
          refine ⟨char :: before, separator, after, ?_, separates, ?_, back⟩
          · rw [spelled, List.cons_append]
          · rw [pieces, if_pos ends, front, split.1]
      · rw [pieces, if_neg ends] at split
        cases cut : pieces isSeparator rest with
        | nil => exact absurd cut (pieces_ne_nil isSeparator rest)
        | cons head tail =>
            simp only [cut, List.cons_append, List.cons.injEq] at split
            have joined : pieces isSeparator rest = (head :: others) ++ back := by
              rw [cut, split.2, List.cons_append]
            obtain ⟨before, separator, after, spelled, separates, front, back⟩ :=
              inductionHypothesis joined (List.cons_ne_nil _ _)
            refine ⟨char :: before, separator, after, ?_, separates, ?_, back⟩
            · rw [spelled, List.cons_append]
            · rw [pieces, if_neg ends, front, ← split.1]

/-- A piece between others is empty exactly where two separators stand side by side. -/
theorem nil_mem_inner_pieces_iff :
    [] ∈ (pieces isSeparator text).tail.dropLast ↔
      ∃ before first second after, text = before ++ first :: second :: after ∧
        isSeparator first = true ∧ isSeparator second = true := by
  constructor
  · intro member
    cases cut : pieces isSeparator text with
    | nil => exact absurd cut (pieces_ne_nil isSeparator text)
    | cons head tail =>
        rw [cut, List.tail_cons] at member
        have filled : tail ≠ [] := by
          rintro rfl
          exact absurd member List.not_mem_nil
        obtain ⟨early, late, inner⟩ := List.append_of_mem member
        have split : pieces isSeparator text =
            (head :: early) ++ ([] :: (late ++ [tail.getLast filled])) := by
          have whole := List.dropLast_concat_getLast filled
          rw [inner, List.append_assoc] at whole
          rw [cut, List.cons_append, List.cons_inj_right]
          exact whole.symm
        obtain ⟨before, first, rest, spelled, isFirst, -, others⟩ :=
          exists_separator_of_pieces split (List.cons_ne_nil _ _) (List.cons_ne_nil _ _)
        have parted : pieces isSeparator rest = [[]] ++ (late ++ [tail.getLast filled]) := others
        obtain ⟨between, second, after, follows, isSecond, alone, -⟩ :=
          exists_separator_of_pieces parted (List.cons_ne_nil _ _) (List.concat_ne_nil _ _)
        have nothing : between = [] := (pieces_eq_singleton_iff.mp alone).2
        exact ⟨before, first, second, after, by rw [spelled, follows, nothing, List.nil_append],
          isFirst, isSecond⟩
  · rintro ⟨before, first, second, after, rfl, isFirst, isSecond⟩
    obtain ⟨head, tail, front⟩ := List.exists_cons_of_ne_nil (pieces_ne_nil isSeparator before)
    rw [pieces_append_separator isFirst, pieces, if_pos isSecond, front, List.cons_append,
      List.tail_cons, List.dropLast_append_of_ne_nil (List.cons_ne_nil _ _),
      List.dropLast_cons_of_ne_nil (pieces_ne_nil isSeparator after)]
    exact List.mem_append_right _ List.mem_cons_self

end ForwardedClient.Text
