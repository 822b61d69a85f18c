import ForwardedClient.Proofs.Chain.CommaList
import ForwardedClient.Proofs.Pattern.Splitting

/-!
Contract: the cut of a chain by a regular expression.

Owns: the expression for a comma with the blanks around it, the tree that it is read into, where a
text is cut by it, and that the entries of a value are the parts of the trimmed value that are not
empty.

Does not own: what the entries are without the expression.
-/

namespace ForwardedClient.Chain

open ForwardedClient.Pattern
open ForwardedClient.Pattern.Node
open ForwardedClient.Text

def separatorExpression : String := "\\s*,\\s*"

def blankClass : CharClass := { items := [.ofKind .blank false] }

def blanksTree : Node := .repeated .greedy 0 none (.one blankClass)

def commaTree : Node := .one (.single {} ','.toNat)

def separatorTree : Node := .ofList [blanksTree, commaTree, blanksTree]

theorem read_separatorExpression : Node.read separatorExpression = .ok separatorTree :=
  eq_ok_of_toOption (by decide +kernel)

theorem contains_blankClass : blankClass.contains = isBlank := by
  funext char
  simp [blankClass, CharClass.contains, ClassItem.holds, CharKind.holds]

/-! ### Runs -/

section Runs

variable {place : Place} {rest : Rest}

theorem run_commaTree_of_comma {chars : List Char} (ahead : place.after = ',' :: chars) :
    commaTree.run place rest = rest (place.step ',' chars) := by
  rw [commaTree, run, ahead]
  exact if_pos (by decide)

theorem run_commaTree_of_other (other : place.after.head? ≠ some ',') :
    commaTree.run place rest = none := by
  rw [commaTree, run]
  cases ahead : place.after with
  | nil => rfl
  | cons char chars =>
      refine if_neg ?_
      rw [CharClass.contains_single, decide_eq_true_eq, Char.toNat_inj]
      rintro rfl
      exact other (by rw [ahead]; rfl)

theorem run_blanksTree (settled : IsSettled blankClass rest place) :
    blanksTree.run place rest = rest (beyond blankClass place) := run_of_isSettled settled

/-- A comma is no blank, so that all blanks before one are taken. -/
theorem run_separatorTree :
    separatorTree.run place some =
      commaTree.run (beyond blankClass place) fun next => some (beyond blankClass next) := by
  have shape : separatorTree = .seq blanksTree (.seq commaTree blanksTree) := rfl
  have trailing : (fun next => blanksTree.run next some) =
      fun next => some (beyond blankClass next) := by
    funext next
    exact run_blanksTree (.inl rfl)
  have settled : IsSettled blankClass (fun next => (seq commaTree blanksTree).run next some)
      place := by
    refine .inr fun middle blank => ?_
    show (seq commaTree blanksTree).run middle some = none
    rw [run]
    refine run_commaTree_of_other fun comma => ?_
    rw [comma, contains_blankClass] at blank
    exact absurd blank (by decide)
  rw [shape, run, run_blanksTree settled]
  show (seq commaTree blanksTree).run (beyond blankClass place) some = _
  rw [run, trailing]

/-- Where a comma follows after blanks, the separator is taken with the blanks behind it. -/
theorem run_separatorTree_of_comma {blanks chars : List Char}
    (blank : ∀ char ∈ blanks, isBlank char = true)
    (ahead : place.after = blanks ++ ',' :: chars) :
    ∃ next, separatorTree.run place some = some next ∧ next.after = chars.dropWhile isBlank := by
  have behind : (beyond blankClass place).after = ',' :: chars := by
    show place.after.dropWhile blankClass.contains = ',' :: chars
    rw [contains_blankClass, ahead, List.dropWhile_append_of_pos blank]
    rfl
  refine ⟨_, run_separatorTree.trans (run_commaTree_of_comma behind), ?_⟩
  show chars.dropWhile blankClass.contains = chars.dropWhile isBlank
  rw [contains_blankClass]

theorem run_separatorTree_of_other (other : (place.after.dropWhile isBlank).head? ≠ some ',') :
    separatorTree.run place some = none := by
  refine run_separatorTree.trans (run_commaTree_of_other ?_)
  show (place.after.dropWhile blankClass.contains).head? ≠ some ','
  rw [contains_blankClass]
  exact other

end Runs

/-! ### The cut -/

section Cut

/-- A text without commas is not cut. -/
theorem splitFrom_of_noComma {place : Place} (part : List Char)
    (noComma : ',' ∉ place.after) : separatorTree.splitFrom part place = [part ++ place.after] := by
  have missed (place : Place) (noComma : ',' ∉ place.after) :
      separatorTree.run place some = none := by
    refine run_separatorTree_of_other fun comma => ?_
    exact noComma ((List.dropWhile_suffix isBlank).mem (List.mem_of_mem_head? comma))
  generalize text : place.after = ahead at noComma
  induction ahead generalizing place part with
  | nil =>
      rw [splitFrom_of_ended part (missed place (text ▸ noComma)) text, List.append_nil]
  | cons char rest inductionHypothesis =>
      have later : ',' ∉ rest := fun member => noComma (List.mem_cons_of_mem char member)
      rw [splitFrom_of_missed part (missed place (text ▸ noComma)) text,
        inductionHypothesis (part ++ [char]) rfl later, List.append_assoc, List.singleton_append]

theorem rdropWhile_cons_of_visible {char : Char} {rest : List Char}
    (visible : ¬ ∀ other ∈ char :: rest, isBlank other = true) :
    (char :: rest).rdropWhile isBlank = char :: rest.rdropWhile isBlank := by
  rw [List.rdropWhile, List.reverse_cons, List.dropWhile_append, List.rdropWhile]
  split
  · rename_i empty
    have dropped : rest.reverse.dropWhile isBlank = [] := List.isEmpty_iff.mp empty
    have blank : ∀ other ∈ rest, isBlank other = true := by
      simpa using List.dropWhile_eq_nil_iff.mp dropped
    have first : ¬ isBlank char = true :=
      fun isBlankChar => visible (List.forall_mem_cons.mpr ⟨isBlankChar, blank⟩)
    rw [dropped, List.dropWhile_cons_of_neg first]
    rfl
  · rw [List.reverse_append]
    rfl

/-- Blanks before a comma are cut away with it. -/
theorem splitFrom_of_blanks {place : Place} {blanks back : List Char} (part : List Char)
    (blank : ∀ char ∈ blanks, isBlank char = true) (ahead : place.after = blanks ++ ',' :: back) :
    ∃ next : Place, next.after = back.dropWhile isBlank ∧
      separatorTree.splitFrom part place = part :: separatorTree.splitFrom [] next := by
  obtain ⟨next, found, remaining⟩ := run_separatorTree_of_comma blank ahead
  have shorter : next.after.length < place.after.length := by
    rw [remaining, ahead, List.length_append, List.length_cons]
    have less := (List.dropWhile_suffix isBlank (l := back)).length_le
    omega
  exact ⟨next, remaining, splitFrom_of_found part found shorter⟩

/-- A text is cut at its first comma, without the blanks around it. -/
theorem splitFrom_of_comma {place : Place} {front back : List Char} (part : List Char)
    (noComma : ',' ∉ front) (ahead : place.after = front ++ ',' :: back) :
    ∃ next : Place, next.after = back.dropWhile isBlank ∧
      separatorTree.splitFrom part place =
        (part ++ front.rdropWhile isBlank) :: separatorTree.splitFrom [] next := by
  induction front generalizing place part with
  | nil =>
      rw [List.rdropWhile_nil, List.append_nil]
      exact splitFrom_of_blanks part (by simp) ahead
  | cons char rest inductionHypothesis =>
      by_cases blank : ∀ other ∈ char :: rest, isBlank other = true
      · rw [List.rdropWhile_eq_nil_iff.mpr blank, List.append_nil]
        exact splitFrom_of_blanks part blank ahead
      · have missed : separatorTree.run place some = none := by
          refine run_separatorTree_of_other fun comma => ?_
          have begun : ((char :: rest).dropWhile isBlank).isEmpty = false := by
            rw [List.isEmpty_eq_false_iff]
            exact fun none => blank (List.dropWhile_eq_nil_iff.mp none)
          rw [ahead, List.dropWhile_append, begun, if_neg Bool.false_ne_true,
            List.head?_append_of_ne_nil _ (List.isEmpty_eq_false_iff.mp begun)] at comma
          exact noComma ((List.dropWhile_suffix isBlank).mem (List.mem_of_mem_head? comma))
        have later : (place.step char (rest ++ ',' :: back)).after = rest ++ ',' :: back := rfl
        obtain ⟨next, remaining, cut⟩ := inductionHypothesis (part ++ [char])
          (fun member => noComma (List.mem_cons_of_mem char member)) later
        refine ⟨next, remaining, ?_⟩
        rw [splitFrom_of_missed part missed ahead, rdropWhile_cons_of_visible blank]
        refine cut.trans ?_
        rw [List.append_assoc, List.singleton_append]

end Cut

/-! ### Entries -/

section Entries

variable {text : List Char}

theorem scanEntries_dropWhile (text : List Char) :
    scanEntries [] [] (text.dropWhile isBlank) = scanEntries [] [] text := by
  induction text with
  | nil => rfl
  | cons char rest inductionHypothesis =>
      by_cases blank : isBlank char = true
      · have other : char ≠ ',' := by
          rintro rfl
          exact absurd blank (by decide)
        rw [List.dropWhile_cons_of_pos blank, inductionHypothesis, scanEntries_blank blank other]
      · rw [List.dropWhile_cons_of_neg blank]

/-- Blanks alone end the entry before them. -/
theorem scanEntries_of_blank {entry blanks ending : List Char}
    (blank : ∀ char ∈ ending, isBlank char = true) :
    scanEntries entry blanks ending = closeEntry entry := by
  induction ending generalizing entry blanks with
  | nil => rfl
  | cons char rest inductionHypothesis =>
      obtain ⟨isBlankChar, later⟩ := List.forall_mem_cons.mp blank
      have other : ¬ (char == ',') = true := by
        intro comma
        rw [beq_iff_eq.mp comma] at isBlankChar
        exact absurd isBlankChar (by decide)
      rw [scanEntries_cons, if_neg other, if_pos isBlankChar]
      split
      · rename_i fresh
        rw [List.isEmpty_iff.mp fresh]
        exact inductionHypothesis later
      · exact inductionHypothesis later

/-- Blanks at the end belong to no entry. -/
theorem scanEntries_append_blanks (entry blanks text : List Char) {ending : List Char}
    (blank : ∀ char ∈ ending, isBlank char = true) :
    scanEntries entry blanks (text ++ ending) = scanEntries entry blanks text := by
  induction text generalizing entry blanks with
  | nil => exact scanEntries_of_blank blank
  | cons char rest inductionHypothesis =>
      rw [List.cons_append, scanEntries_cons, scanEntries_cons]
      simp only [inductionHypothesis]

theorem scanEntries_strip (text : List Char) :
    scanEntries [] [] (strip text) = scanEntries [] [] text := by
  have whole := List.rdropWhile_append_rtakeWhile (p := isBlank) (l := text.dropWhile isBlank)
  rw [strip_eq, ← scanEntries_dropWhile text]
  conv_rhs => rw [← whole]
  exact (scanEntries_append_blanks [] [] _ fun _ member => List.mem_rtakeWhile_imp member).symm

/-- A trimmed text neither begins nor ends with a blank. -/
theorem trimmed_iff :
    strip text = text ↔ text.dropWhile isBlank = text ∧ text.rdropWhile isBlank = text := by
  constructor
  · intro trimmed
    have left : text.dropWhile isBlank = text := by
      have kept := dropWhile_strip text
      rwa [trimmed] at kept
    rw [strip_eq, left] at trimmed
    exact ⟨left, trimmed⟩
  · rintro ⟨left, right⟩
    rw [strip_eq, left, right]

theorem dropWhile_of_prefix {front : List Char} (begins : front <+: text)
    (trimmed : text.dropWhile isBlank = text) : front.dropWhile isBlank = front := by
  obtain ⟨rest, rfl⟩ := begins
  rw [List.dropWhile_eq_self_iff] at trimmed ⊢
  intro filled
  have visible := trimmed (by rw [List.length_append]; omega)
  simpa [List.getElem_append_left filled] using visible

theorem rdropWhile_of_suffix {back : List Char} (ends : back <:+ text)
    (trimmed : text.rdropWhile isBlank = text) : back.rdropWhile isBlank = back := by
  obtain ⟨front, rfl⟩ := ends
  rw [List.rdropWhile_eq_self_iff] at trimmed ⊢
  intro filled
  have visible := trimmed (List.append_ne_nil_of_right_ne_nil front filled)
  rwa [List.getLast_append_of_ne_nil _ filled] at visible

/-- The parts of a trimmed text are the texts of its entries, and perhaps empty ones. -/
theorem flatMap_splitFrom {place : Place} (trimmed : strip place.after = place.after) :
    (separatorTree.splitFrom [] place).flatMap closeEntry = scanEntries [] [] place.after := by
  -- The induction is on the length, since a cut at the first comma leaves any shorter text.
  generalize long : place.after.length = length
  induction length using Nat.strong_induction_on generalizing place with
  | h length inductionHypothesis =>
      by_cases comma : ',' ∈ place.after
      · obtain ⟨front, back, ahead, noComma⟩ := List.eq_append_cons_of_mem comma
        obtain ⟨next, remaining, cut⟩ := splitFrom_of_comma [] noComma ahead
        obtain ⟨left, right⟩ := trimmed_iff.mp trimmed
        have begins : front.dropWhile isBlank = front :=
          dropWhile_of_prefix ⟨_, ahead.symm⟩ left
        have ends : strip next.after = next.after := by
          have within : back.dropWhile isBlank <:+ place.after := by
            refine (List.dropWhile_suffix isBlank).trans ⟨front ++ [','], ?_⟩
            rw [ahead, List.append_assoc, List.singleton_append]
          rw [remaining, strip_eq, List.dropWhile_idempotent, rdropWhile_of_suffix within right]
        have shorter : next.after.length < length := by
          have less := (List.dropWhile_suffix isBlank (l := back)).length_le
          rw [← long, remaining, ahead, List.length_append, List.length_cons]
          omega
        have entry : scanEntries [] [] front = closeEntry (front.rdropWhile isBlank) := by
          have apart : ∀ char ∈ front, char ≠ ',' :=
            fun char member same => noComma (same ▸ member)
          rw [scanEntries_of_noComma apart, strip_eq, begins]
        rw [cut, List.flatMap_cons, List.nil_append, inductionHypothesis _ shorter ends rfl,
          remaining, scanEntries_dropWhile, ahead, scanEntries_append_comma, entry]
      · have apart : ∀ char ∈ place.after, char ≠ ',' :=
          fun char member same => comma (same ▸ member)
        rw [splitFrom_of_noComma [] comma, scanEntries_of_noComma apart, trimmed,
          List.flatMap_singleton, List.nil_append]

theorem flatMap_closeEntry (parts : List (List Char)) :
    parts.flatMap closeEntry = (parts.map String.ofList).filter (· != "") := by
  induction parts with
  | nil => rfl
  | cons part rest inductionHypothesis =>
      rw [List.flatMap_cons, inductionHypothesis, closeEntry_eq_filter, ← List.filter_append]
      rfl

end Entries

/-- The entries of a value are what an expression for a comma and the blanks around it leaves of
the trimmed value, without empty parts. -/
theorem entries_match_expression :
    ∃ node, Node.read separatorExpression = .ok node ∧
      ∀ value : String, split (some value) =
        ((node.split (strip value.toList)).map String.ofList).filter (· != "") := by
  refine ⟨separatorTree, read_separatorExpression, fun value => ?_⟩
  let start : Place := { after := strip value.toList }
  have trimmed : strip start.after = start.after := strip_strip value.toList
  rw [split, ← scanEntries_strip, Node.split, ← flatMap_closeEntry]
  exact (flatMap_splitFrom trimmed).symm

end ForwardedClient.Chain
