import ForwardedClient.Forwarded.Element

/-!
Contract: how the scanner cuts a header value.

Owns: the scan up to a separator and across it, the law by which a value falls apart at any of its
separators, and the characters that a pair is made of.

Does not own: what the pairs mean.
-/

namespace ForwardedClient.Forwarded

open ForwardedClient.Text

/-- The characters that end a pair. -/
def isBreak (char : Char) : Bool := char == ',' || char == ';'

/-- The characters that the scanner neither drops nor reacts to. -/
def isPlain (char : Char) : Bool :=
  !(isBreak char || char == '=' || char == ' ' || char == '"')

theorem isBreak_of_isPlain {char : Char} (plain : isPlain char = true) : isBreak char = false := by
  simp only [isPlain, Bool.not_eq_true', Bool.or_eq_false_iff] at plain
  exact plain.1.1.1

namespace Scan

theorem run_cons_of_break {char : Char} (ends : isBreak char = true) (scan : Scan)
    (rest : List Char) : scan.run (char :: rest) = scan.pair :: run {} rest := by
  have stops : (char == ',' || char == ';') = true := ends
  rw [run, if_pos stops]

theorem run_cons_of_noBreak {char : Char} (goesOn : isBreak char = false) (scan : Scan)
    (rest : List Char) : scan.run (char :: rest) = (scan.push char).run rest := by
  have stops : ¬ (char == ',' || char == ';') = true := by
    rw [isBreak] at goesOn
    simp [goesOn]
  rw [run, if_neg stops]

/-! ### Between separators -/

variable {scan : Scan} {text : List Char}

theorem run_of_noBreak (absent : ∀ char ∈ text, isBreak char = false) :
    scan.run text =
      if (text.foldl push scan).key.isEmpty || (text.foldl push scan).value.isEmpty then []
      else [(text.foldl push scan).pair] := by
  induction text generalizing scan with
  | nil => rfl
  | cons char rest inductionHypothesis =>
      rw [run_cons_of_noBreak (absent char List.mem_cons_self), List.foldl_cons,
        inductionHypothesis fun other member => absent other (List.mem_cons_of_mem char member)]

theorem run_append_break {mark : Char} (ends : isBreak mark = true)
    (absent : ∀ char ∈ text, isBreak char = false) (rest : List Char) :
    scan.run (text ++ mark :: rest) = (text.foldl push scan).pair :: run {} rest := by
  induction text generalizing scan with
  | nil => rw [List.nil_append, run_cons_of_break ends, List.foldl_nil]
  | cons char others inductionHypothesis =>
      rw [List.cons_append, run_cons_of_noBreak (absent char List.mem_cons_self), List.foldl_cons,
        inductionHypothesis fun other member => absent other (List.mem_cons_of_mem char member)]

theorem push_of_isPlain {char : Char} (plain : isPlain char = true) :
    scan.push char =
      if scan.inKey then { scan with key := scan.key ++ [char] }
      else { scan with value := scan.value ++ [char] } := by
  simp only [isPlain, Bool.not_eq_true', Bool.or_eq_false_iff] at plain
  obtain ⟨⟨⟨-, equals⟩, space⟩, quote⟩ := plain
  simp only [push, equals, space, quote, Bool.or_self, Bool.false_eq_true, if_false]

/-- Plain characters are added to the part that is being read. -/
theorem foldl_push (plain : ∀ char ∈ text, isPlain char = true) :
    text.foldl push scan =
      if scan.inKey then { scan with key := scan.key ++ text }
      else { scan with value := scan.value ++ text } := by
  induction text generalizing scan with
  | nil => simp
  | cons char rest inductionHypothesis =>
      have later : ∀ other ∈ rest, isPlain other = true :=
        fun other member => plain other (List.mem_cons_of_mem char member)
      rw [List.foldl_cons, push_of_isPlain (plain char List.mem_cons_self),
        inductionHypothesis later]
      cases scan.inKey <;> simp

/-! ### At separators -/

/-- A separator ends the pair before it, whatever was read of that pair, and the right is scanned
afresh. -/
theorem run_split {mark : Char} (ends : isBreak mark = true) (left right : List Char) :
    scan.run (left ++ mark :: right) = scan.run (left ++ [mark]) ++ run {} right := by
  induction left generalizing scan with
  | nil =>
      rw [List.nil_append, List.nil_append, run_cons_of_break ends, run_cons_of_break ends]
      rfl
  | cons char rest inductionHypothesis =>
      rw [List.cons_append, List.cons_append]
      cases here : isBreak char with
      | true =>
          rw [run_cons_of_break here, run_cons_of_break here, inductionHypothesis,
            List.cons_append]
      | false => rw [run_cons_of_noBreak here, run_cons_of_noBreak here, inductionHypothesis]

/-- A separator at the end of a text ends its last pair, which counts without it only if it has a
key and a value. -/
theorem run_append_mark {mark : Char} (ends : isBreak mark = true) (text : List Char) :
    ∃ unfinished, scan.run (text ++ [mark]) = scan.run text ++ unfinished ∧
      ∀ pair ∈ unfinished, pair.1 = "" ∨ pair.2 = "" := by
  induction text generalizing scan with
  | nil =>
      have last : scan.run ([] ++ [mark]) = [scan.pair] := run_cons_of_break ends scan []
      by_cases counts : (scan.key.isEmpty || scan.value.isEmpty) = true
      · refine ⟨[scan.pair], by rw [last, run, if_pos counts, List.nil_append], ?_⟩
        intro pair member
        rw [List.mem_singleton.mp member]
        rw [Bool.or_eq_true, List.isEmpty_iff, List.isEmpty_iff] at counts
        rcases counts with noKey | noValue
        · exact Or.inl (congrArg String.ofList noKey)
        · exact Or.inr (congrArg String.ofList noValue)
      · exact ⟨[], by rw [last, run, if_neg counts, List.append_nil], by simp⟩
  | cons char rest inductionHypothesis =>
      rw [List.cons_append]
      cases here : isBreak char with
      | true =>
          obtain ⟨unfinished, cut, empty⟩ := @inductionHypothesis {}
          refine ⟨unfinished, ?_, empty⟩
          rw [run_cons_of_break here, run_cons_of_break here, cut, List.cons_append]
      | false =>
          obtain ⟨unfinished, cut, empty⟩ := @inductionHypothesis (scan.push char)
          refine ⟨unfinished, ?_, empty⟩
          rw [run_cons_of_noBreak here, run_cons_of_noBreak here, cut]

/-! ### What pairs are made of -/

theorem mem_push_value {char other : Char} (member : other ∈ (scan.push char).value) :
    other ∈ scan.value ∨ other = char ∧ (isBreak char = false → isPlain char = true) := by
  unfold push at member
  split at member
  · exact Or.inl member
  · rename_i notEquals
    split at member
    · exact Or.inl member
    · rename_i kept
      split at member
      · exact Or.inl member
      · rcases List.mem_append.mp member with old | new
        · exact Or.inl old
        · refine Or.inr ⟨List.mem_singleton.mp new, fun goesOn => ?_⟩
          simp only [Bool.or_eq_true, not_or, Bool.not_eq_true] at kept notEquals
          simp only [isPlain, goesOn, notEquals, kept.1, kept.2, Bool.or_self, Bool.not_false]

/-- The value of a pair is made of plain characters of the text. -/
theorem mem_of_mem_run {found : String × String} {char : Char} (member : found ∈ scan.run text)
    (inside : char ∈ found.2.toList) :
    char ∈ scan.value ∨ char ∈ text ∧ isPlain char = true := by
  induction text generalizing scan with
  | nil =>
      rw [run] at member
      split at member
      · exact absurd member List.not_mem_nil
      · rw [List.mem_singleton.mp member, pair, String.toList_ofList] at inside
        exact Or.inl inside
  | cons first rest inductionHypothesis =>
      cases goesOn : isBreak first with
      | true =>
          rw [run_cons_of_break goesOn] at member
          rcases List.mem_cons.mp member with same | later
          · rw [same, pair, String.toList_ofList] at inside
            exact Or.inl inside
          · rcases inductionHypothesis later with fresh | ⟨here, plain⟩
            · exact absurd fresh List.not_mem_nil
            · exact Or.inr ⟨List.mem_cons_of_mem first here, plain⟩
      | false =>
          rw [run_cons_of_noBreak goesOn] at member
          rcases inductionHypothesis member with pushed | ⟨here, plain⟩
          · rcases mem_push_value pushed with old | ⟨same, isNew⟩
            · exact Or.inl old
            · exact Or.inr ⟨same ▸ List.mem_cons_self, same ▸ isNew goesOn⟩
          · exact Or.inr ⟨List.mem_cons_of_mem first here, plain⟩

end Scan

/-- A value falls apart at any separator. -/
theorem pairs_append_break {mark : Char} (ends : isBreak mark = true) (left right : String) :
    pairs (left ++ String.singleton mark ++ right) =
      pairs (left ++ String.singleton mark) ++ pairs right := by
  have spelled : (left ++ String.singleton mark ++ right).toList =
      left.toList ++ mark :: right.toList := by
    simp
  have ended : (left ++ String.singleton mark).toList = left.toList ++ [mark] := by
    simp
  rw [pairs, pairs, pairs, spelled, ended, Scan.run_split ends]

theorem pairs_append_comma (left right : String) :
    pairs (left ++ "," ++ right) = pairs (left ++ ",") ++ pairs right := by
  have comma : "," = String.singleton ',' := by decide
  rw [comma]
  exact pairs_append_break (by decide) left right

/-- A separator at the end of a value adds no pair with a key and a value. -/
theorem pairs_append_mark {mark : Char} (ends : isBreak mark = true) (value : String) :
    ∃ unfinished, pairs (value ++ String.singleton mark) = pairs value ++ unfinished ∧
      ∀ pair ∈ unfinished, pair.1 = "" ∨ pair.2 = "" := by
  have ended : (value ++ String.singleton mark).toList = value.toList ++ [mark] := by
    simp
  rw [pairs, pairs, ended]
  exact Scan.run_append_mark ends value.toList

theorem mem_of_mem_pairs {value : String} {pair : String × String} {char : Char}
    (member : pair ∈ pairs value) (inside : char ∈ pair.2.toList) :
    char ∈ value.toList ∧ isPlain char = true :=
  (Scan.mem_of_mem_run member inside).resolve_left List.not_mem_nil

end ForwardedClient.Forwarded
