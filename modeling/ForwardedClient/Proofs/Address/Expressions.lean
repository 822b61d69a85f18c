import ForwardedClient.Proofs.Address.Grammar
import ForwardedClient.Proofs.Pattern.Language

/-!
Contract: host names and ports as regular expressions.

Owns: the expressions for host names, for ports of a literal and for port numbers, the trees that
they are read into, and that each tree accepts exactly the texts that the check of that name takes.

Does not own: the grammar of literals, and expressions that are configured.
-/

namespace ForwardedClient.Address

open ForwardedClient.Pattern
open ForwardedClient.Pattern.Node
open ForwardedClient.Text

/-! ### Expressions -/

def labelExpression : String := "[A-Za-z0-9](?:[A-Za-z0-9_-]*[A-Za-z0-9])?"

def hostNameExpression : String :=
  labelExpression ++ "(?:\\." ++ labelExpression ++ ")*\\.?"

def portNumeralExpression : String := "[0-9]\x7b1,5\x7d"

def portExpression : String := portNumeralExpression ++ "|_[A-Za-z0-9._-]+"

/-! ### Trees -/

def optional (node : Node) : Node := .repeated .greedy 0 (some 1) node

def anyTimes (node : Node) : Node := .repeated .greedy 0 none node

/-- A character between two others. -/
def between (first last : Char) : ClassItem := .range first.toNat last.toNat

def alphanumericItems : List ClassItem := [between 'A' 'Z', between 'a' 'z', between '0' '9']

def endClass : CharClass := { items := alphanumericItems }

def labelClass : CharClass :=
  { items := alphanumericItems ++ [.code '_'.toNat, .code '-'.toNat] }

def tokenClass : CharClass :=
  { items := alphanumericItems ++ [.code '.'.toNat, .code '_'.toNat, .code '-'.toNat] }

def digitClass : CharClass := { items := [between '0' '9'] }

def stopTree : Node := .one (.single {} '.'.toNat)

def labelParts : List Node :=
  [.one endClass, optional (.seq (anyTimes (.one labelClass)) (.one endClass))]

/-- A label with the full stop before it. -/
def furtherLabel : Node := .ofList (stopTree :: labelParts)

def hostNameTree : Node := .ofList (labelParts ++ [anyTimes furtherLabel, optional stopTree])

def portNumeralTree : Node := .repeated .greedy 1 (some 5) (.one digitClass)

def portTree : Node :=
  .alt portNumeralTree
    (.seq (.one (.single {} '_'.toNat)) (.repeated .greedy 1 none (.one tokenClass)))

/-- The expressions are read as these trees. -/
theorem read_expressions :
    Node.read hostNameExpression = .ok hostNameTree ∧
      Node.read portNumeralExpression = .ok portNumeralTree ∧
      Node.read portExpression = .ok portTree := by
  refine ⟨eq_ok_of_toOption ?_, eq_ok_of_toOption ?_, eq_ok_of_toOption ?_⟩
  · decide +kernel
  · decide +kernel
  · decide +kernel

/-! ### Characters -/

section Characters

variable {char : Char}

theorem holds_between {first last : Char} :
    (between first last).holds {} char = (decide (first ≤ char) && decide (char ≤ last)) := by
  simp only [between, ClassItem.holds, CharMode.variants, Bool.not_false, if_true, List.any_cons,
    List.any_nil, Bool.or_false]
  rfl

theorem holds_code {other : Char} :
    (ClassItem.code other.toNat).holds {} char = (char == other) := by
  rw [Bool.eq_iff_iff, beq_iff_eq, ← Char.toNat_inj]
  simp only [ClassItem.holds, CharMode.variants, Bool.not_false, if_true, List.contains_cons,
    List.contains_nil, Bool.or_false, beq_iff_eq]
  exact eq_comm

theorem any_alphanumericItems :
    alphanumericItems.any (·.holds {} char) = isAsciiAlphanumeric char := by
  simp only [alphanumericItems, List.any_cons, List.any_nil, holds_between, isAsciiAlphanumeric,
    isAsciiLetter, isAsciiDigit, Bool.or_false]
  rw [← Bool.or_assoc, Bool.or_comm (_ && _) (_ && _)]

theorem contains_endClass : endClass.contains char = isAsciiAlphanumeric char := by
  rw [CharClass.contains, endClass, any_alphanumericItems, Bool.bne_false]

theorem contains_labelClass : labelClass.contains char = isLabelChar char := by
  simp only [CharClass.contains, labelClass, List.any_append, any_alphanumericItems, List.any_cons,
    List.any_nil, holds_code, isLabelChar, Bool.or_false, Bool.bne_false, Bool.or_assoc]

theorem contains_tokenClass : tokenClass.contains char = isTokenChar char := by
  simp only [CharClass.contains, tokenClass, List.any_append, any_alphanumericItems, List.any_cons,
    List.any_nil, holds_code, isTokenChar, Bool.or_false, Bool.bne_false, Bool.or_assoc]

theorem contains_digitClass : digitClass.contains char = isAsciiDigit char := by
  simp only [CharClass.contains, digitClass, List.any_cons, List.any_nil, holds_between,
    isAsciiDigit, Bool.or_false, Bool.bne_false]

end Characters

/-! ### Host names -/

section Texts

variable {text : List Char}

theorem takes_labelParts_iff : (ofList labelParts).Takes text ↔ LabelSpelling text := by
  have parts : ofList labelParts =
      .seq (.one endClass) (optional (.seq (anyTimes (.one labelClass)) (.one endClass))) := rfl
  rw [parts, takes_seq_iff]
  constructor
  · rintro ⟨front, back, rfl, takesEnd, takesRest⟩
    obtain ⟨first, rfl, opens⟩ := takes_one_iff.mp takesEnd
    rw [contains_endClass] at opens
    rcases takes_optional_iff.mp takesRest with rfl | takesMore
    · exact .single opens
    · obtain ⟨inner, ending, rfl, takesInner, takesLast⟩ := takes_seq_iff.mp takesMore
      obtain ⟨last, rfl, closes⟩ := takes_one_iff.mp takesLast
      rw [contains_endClass] at closes
      obtain ⟨-, -, inside⟩ := takes_repeated_one_iff.mp takesInner
      simp only [contains_labelClass] at inside
      exact .between opens inside closes
  · intro spelled
    cases spelled with
    | @single char isEnd =>
        exact ⟨[char], [], rfl, .one (contains_endClass ▸ isEnd), takes_optional_iff.mpr (.inl rfl)⟩
    | @between first last inner opens inside closes =>
        refine ⟨[first], inner ++ [last], rfl, .one (contains_endClass ▸ opens),
          takes_optional_iff.mpr (.inr (.seq ?_ (.one (contains_endClass ▸ closes))))⟩
        refine takes_repeated_one_iff.mpr ⟨Nat.zero_le _, nofun, fun char member => ?_⟩
        rw [contains_labelClass]
        exact inside char member

theorem takes_furtherLabel_iff :
    furtherLabel.Takes text ↔ ∃ label, text = '.' :: label ∧ LabelSpelling label := by
  have parts : furtherLabel = .seq stopTree (ofList labelParts) := rfl
  rw [parts, takes_seq_iff]
  simp only [stopTree, takes_single_iff, takes_labelParts_iff]
  constructor
  · rintro ⟨_, label, rfl, rfl, spelled⟩
    exact ⟨label, rfl, spelled⟩
  · rintro ⟨label, rfl, spelled⟩
    exact ⟨['.'], label, rfl, rfl, spelled⟩

/-- Turns of a repeated label are labels with a full stop before each. -/
theorem takes_furtherLabels_iff :
    (anyTimes furtherLabel).Takes text ↔
      ∃ labels : List (List Char), text = labels.flatMap ('.' :: ·) ∧
        ∀ label ∈ labels, LabelSpelling label := by
  rw [anyTimes, takes_repeated_iff]
  constructor
  · rintro ⟨turns, rfl, -, -, each⟩
    refine ⟨turns.map List.tail, ?_, fun label member => ?_⟩
    · have same : (turns.map List.tail).map ('.' :: ·) = turns := by
        rw [List.map_map]
        refine (List.map_congr_left fun turn member => ?_).trans (List.map_id turns)
        obtain ⟨label, rfl, -⟩ := takes_furtherLabel_iff.mp (each turn member)
        rfl
      rw [List.flatMap_def, same]
    · obtain ⟨turn, isTurn, rfl⟩ := List.mem_map.mp member
      obtain ⟨label, rfl, spelled⟩ := takes_furtherLabel_iff.mp (each turn isTurn)
      exact spelled
  · rintro ⟨labels, rfl, each⟩
    refine ⟨labels.map ('.' :: ·), List.flatMap_def, Nat.zero_le _, nofun, fun turn member => ?_⟩
    obtain ⟨label, isLabel, rfl⟩ := List.mem_map.mp member
    exact takes_furtherLabel_iff.mpr ⟨label, rfl, each label isLabel⟩

theorem intercalate_stop (label : List Char) (others : List (List Char)) :
    ['.'].intercalate (label :: others) = label ++ others.flatMap ('.' :: ·) := by
  induction others generalizing label with
  | nil => simp [List.intercalate]
  | cons next others inductionHypothesis =>
      rw [List.intercalate_cons_cons, inductionHypothesis, List.flatMap_cons]
      simp

/-- A host name is a label, further labels with a full stop before each, and perhaps one more full
stop. -/
theorem hostSpelling_iff :
    HostSpelling text ↔
      ∃ label others last, text = label ++ (List.flatMap ('.' :: ·) others ++ last) ∧
        LabelSpelling label ∧ (∀ other ∈ others, LabelSpelling other) ∧
        (last = [] ∨ last = ['.']) := by
  constructor
  · intro spelled
    cases spelled with
    | @labels labels filled each =>
        obtain ⟨label, others, rfl⟩ := List.exists_cons_of_ne_nil filled
        obtain ⟨first, later⟩ := List.forall_mem_cons.mp each
        exact ⟨label, others, [], by rw [intercalate_stop, List.append_nil], first, later,
          .inl rfl⟩
    | @stopped labels filled each =>
        obtain ⟨label, others, rfl⟩ := List.exists_cons_of_ne_nil filled
        obtain ⟨first, later⟩ := List.forall_mem_cons.mp each
        exact ⟨label, others, ['.'], by rw [intercalate_stop, List.append_assoc], first, later,
          .inr rfl⟩
  · rintro ⟨label, others, last, rfl, first, later, ends⟩
    have filled : label :: others ≠ [] := List.cons_ne_nil label others
    have each : ∀ other ∈ label :: others, LabelSpelling other :=
      List.forall_mem_cons.mpr ⟨first, later⟩
    rw [← List.append_assoc, ← intercalate_stop]
    rcases ends with rfl | rfl
    · rw [List.append_nil]
      exact .labels filled each
    · exact .stopped filled each

theorem takes_hostNameTree_iff : hostNameTree.Takes text ↔ HostSpelling text := by
  have ending {rest : List Char} : (optional stopTree).Takes rest ↔ rest = [] ∨ rest = ['.'] := by
    rw [optional, takes_optional_iff, stopTree, takes_single_iff]
  have behind : ofList [anyTimes furtherLabel, optional stopTree] =
      .seq (anyTimes furtherLabel) (optional stopTree) := rfl
  rw [hostNameTree, takes_ofList_append_iff, behind, hostSpelling_iff]
  simp only [takes_seq_iff, takes_labelParts_iff, takes_furtherLabels_iff, ending]
  constructor
  · rintro ⟨label, _, rfl, first, _, last, rfl, ⟨others, rfl, later⟩, ends⟩
    exact ⟨label, others, last, rfl, first, later, ends⟩
  · rintro ⟨label, others, last, rfl, first, later, ends⟩
    exact ⟨label, _, rfl, first, _, last, rfl, ⟨others, rfl, later⟩, ends⟩

/-! ### Ports -/

theorem takes_portNumeralTree_iff :
    portNumeralTree.Takes text ↔ isPortNumeral text = true := by
  rw [portNumeralTree, takes_repeated_one_iff, isPortNumeral_iff]
  simp only [contains_digitClass, Option.mem_some_iff, forall_eq']

theorem takes_portTree_iff : portTree.Takes text ↔ PortSpelling text := by
  rw [portTree, takes_alt_iff, takes_portNumeralTree_iff, takes_seq_iff]
  simp only [takes_single_iff, takes_repeated_one_iff, contains_tokenClass]
  constructor
  · rintro (numeral | ⟨_, token, rfl, rfl, filled, -, each⟩)
    · exact isPortText_iff.mp (isPortText_of_isPortNumeral numeral)
    · exact .withheld (List.length_pos_iff.mp filled) each
  · intro spelled
    cases spelled with
    | number filled few each =>
        exact .inl (isPortNumeral_iff.mpr ⟨filled, few, each⟩)
    | @withheld token filled each =>
        exact .inr ⟨['_'], token, rfl, rfl, List.length_pos_iff.mpr filled, nofun, each⟩

end Texts

/-! ### What the expressions accept -/

theorem isPlain_labelParts : (ofList labelParts).IsPlain := by
  have filled : ¬ (seq (anyTimes (.one labelClass)) (.one endClass)).Takes [] := by
    rw [takes_seq_iff]
    rintro ⟨front, back, empty, -, takes⟩
    rw [(List.append_eq_nil_iff.mp empty.symm).2] at takes
    exact not_takes_one_nil takes
  exact .seq (.one _) (.repeated (.seq (.repeated (.one _) not_takes_one_nil nofun) (.one _))
    filled (fun _ _ => Nat.zero_le _))

theorem isPlain_hostNameTree : hostNameTree.IsPlain := by
  have filled : ¬ furtherLabel.Takes [] := by
    rw [takes_furtherLabel_iff]
    rintro ⟨label, empty, -⟩
    exact List.cons_ne_nil _ _ empty.symm
  have further : (anyTimes furtherLabel).IsPlain :=
    .repeated (.seq (.one _) isPlain_labelParts) filled nofun
  have ending : (optional stopTree).IsPlain :=
    .repeated (.one _) not_takes_one_nil fun _ _ => Nat.zero_le _
  exact isPlain_ofList_append isPlain_labelParts (.seq further ending)

theorem isPlain_portNumeralTree : portNumeralTree.IsPlain :=
  .repeated (.one _) not_takes_one_nil (by simp)

theorem isPlain_portTree : portTree.IsPlain :=
  .alt isPlain_portNumeralTree (.seq (.one _) (.repeated (.one _) not_takes_one_nil nofun))

/-- Host names are the texts that their expression accepts. -/
theorem hostNames_match_expression :
    ∃ node, Node.read hostNameExpression = .ok node ∧
      ∀ text, node.accepts text = isHostName text := by
  refine ⟨hostNameTree, read_expressions.1, fun text => ?_⟩
  rw [Bool.eq_iff_iff, accepts_iff isPlain_hostNameTree, takes_hostNameTree_iff, isHostName_iff]

/-- Ports of a literal are the texts that their expression accepts. -/
theorem portTexts_match_expression :
    ∃ node, Node.read portExpression = .ok node ∧ ∀ text, node.accepts text = isPortText text := by
  refine ⟨portTree, read_expressions.2.2, fun text => ?_⟩
  rw [Bool.eq_iff_iff, accepts_iff isPlain_portTree, takes_portTree_iff, isPortText_iff]

/-- Port numbers are the texts that their expression accepts. -/
theorem portNumerals_match_expression :
    ∃ node, Node.read portNumeralExpression = .ok node ∧
      ∀ text, node.accepts text = isPortNumeral text := by
  refine ⟨portNumeralTree, read_expressions.2.1, fun text => ?_⟩
  rw [Bool.eq_iff_iff, accepts_iff isPlain_portNumeralTree, takes_portNumeralTree_iff]

end ForwardedClient.Address
