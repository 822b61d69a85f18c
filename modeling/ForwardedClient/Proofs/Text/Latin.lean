import ForwardedClient.Text.Blank
import ForwardedClient.Text.Case
import ForwardedClient.Text.Latin

/-!
Contract: which texts can stand on the wire, and what lower case makes of them.

Owns: `IsLatin`, the property of a text that it can be encoded, how it passes between a text and
its parts, and on to its lower case, and the characters that stay in it.

Does not own: the texts of headers.
-/

namespace ForwardedClient.Text

/-- A text of characters that are one byte each. -/
def IsLatin (text : String) : Prop := ∀ char ∈ text.toList, isLatin char = true

instance (text : String) : Decidable (IsLatin text) :=
  List.decidableBAll (fun char => isLatin char = true) text.toList

theorem LatinText.isLatin_text (value : LatinText) : IsLatin value.text :=
  List.all_eq_true.mp value.latin

/-- A text can be encoded exactly if it is one of bytes. -/
theorem exists_encode_iff {text : String} :
    (∃ value, LatinText.encode text = .ok value) ↔ IsLatin text := by
  constructor
  · rintro ⟨value, encoded⟩
    rw [← LatinText.text_of_encode encoded]
    exact value.isLatin_text
  · intro latin
    exact ⟨⟨text, List.all_eq_true.mpr latin⟩, LatinText.encode_text ⟨text, _⟩⟩

/-- A text as it stands on the wire; one that cannot stand there is empty. -/
def onWire (text : String) : LatinText := (LatinText.encode text).toOption.getD default

theorem isLatin_ofList {chars : List Char} :
    IsLatin (String.ofList chars) ↔ ∀ char ∈ chars, isLatin char = true := by
  rw [IsLatin, String.toList_ofList]

theorem isLatin_append {left right : String} :
    IsLatin (left ++ right) ↔ IsLatin left ∧ IsLatin right := by
  simp only [IsLatin, String.toList_append, List.mem_append]
  constructor
  · intro latin
    exact ⟨fun char member => latin char (Or.inl member),
      fun char member => latin char (Or.inr member)⟩
  · rintro ⟨leftLatin, rightLatin⟩ char (member | member)
    · exact leftLatin char member
    · exact rightLatin char member

theorem isLatin_intercalate {separator : String} (separates : IsLatin separator)
    {texts : List String} :
    IsLatin (separator.intercalate texts) ↔ ∀ text ∈ texts, IsLatin text := by
  induction texts with
  | nil => simp [IsLatin]
  | cons text rest inductionHypothesis =>
      cases rest with
      | nil => simp [String.intercalate_singleton]
      | cons next others =>
          rw [String.intercalate_cons_cons, isLatin_append, isLatin_append, inductionHypothesis]
          refine Iff.trans ?_ List.forall_mem_cons.symm
          exact ⟨fun latin => ⟨latin.1.1, latin.2⟩, fun latin => ⟨⟨latin.1, separates⟩, latin.2⟩⟩

/-! ### Lower case -/

/-- The runs of capitals among the bytes become bytes. -/
theorem image_lt_of_mem_lowerRuns :
    ∀ run ∈ lowerRuns, run.first < 0x100 → run.image + (run.last - run.first) < 0x100 := by
  unfold lowerRuns CaseRun.ofLines entriesOf
  simp only [List.flatMap_cons, List.flatMap_nil]
  -- Each line is turned into its characters here, since the kernel would do it byte by byte.
  repeat rw [String.toList_ofList]
  decide +kernel

theorem mapCase_lowerRuns_lt {code : Nat} (byte : code < 0x100) :
    mapCase lowerRuns code < 0x100 := by
  unfold mapCase
  cases found : lowerRuns.find? (·.covers code) with
  | none => exact byte
  | some run =>
      have covered := List.find?_some found
      simp only [CaseRun.covers, Bool.and_eq_true, decide_eq_true_eq] at covered
      have bounded := image_lt_of_mem_lowerRuns run (List.mem_of_find?_eq_some found)
      show run.image + (code - run.first) < 0x100
      omega

theorem lowerCode_lt {code : Nat} (byte : code < 0x100) : lowerCode code < 0x100 := by
  unfold lowerCode
  split
  · rename_i ascii
    split <;> omega
  · split
    · decide
    · exact mapCase_lowerRuns_lt byte

theorem toNat_ofNat_of_lt {code : Nat} (byte : code < 0x100) : (Char.ofNat code).toNat = code := by
  have valid : code.isValidChar := Or.inl (by omega)
  rw [Char.ofNat, dif_pos valid]
  rfl

/-- The characters that have more than one small letter are not bytes, so that each byte becomes
one. -/
theorem isLatin_of_mem_lowerFrom {before text : List Char} {char : Char}
    (latin : ∀ other ∈ text, isLatin other = true) (member : char ∈ lowerFrom before text) :
    isLatin char = true := by
  induction text generalizing before with
  | nil => simp [lowerFrom] at member
  | cons first rest inductionHypothesis =>
      have byte : first.toNat < 0x100 := by
        simpa [isLatin] using latin first List.mem_cons_self
      have notDotted : ¬ (first.toNat == 0x130) = true := by
        rw [beq_iff_eq]
        omega
      have notSigma : ¬ (first.toNat == 0x3A3) = true := by
        rw [beq_iff_eq]
        omega
      rw [lowerFrom, if_neg notDotted, if_neg notSigma] at member
      rcases List.mem_append.mp member with image | later
      · have small := lowerCode_lt byte
        rw [List.mem_singleton.mp image, isLatin, decide_eq_true_eq, toNat_ofNat_of_lt small]
        exact small
      · exact inductionHypothesis
          (fun other inside => latin other (List.mem_cons_of_mem first inside)) later

theorem isLatin_lower {text : String} (latin : IsLatin text) : IsLatin (lower text) := by
  rw [lower, isLatin_ofList]
  exact fun char member => isLatin_of_mem_lowerFrom latin member

/-- A character of a text has its small letter in the lower-case text, but for the two capitals
that have more than one. -/
theorem mem_lowerFrom {before text : List Char} {char : Char} (member : char ∈ text)
    (notDotted : char.toNat ≠ 0x130) (notSigma : char.toNat ≠ 0x3A3) :
    Char.ofNat (lowerCode char.toNat) ∈ lowerFrom before text := by
  induction text generalizing before with
  | nil => exact absurd member List.not_mem_nil
  | cons first rest inductionHypothesis =>
      rw [lowerFrom]
      rcases List.mem_cons.mp member with same | later
      · subst same
        rw [if_neg (by simpa using notDotted), if_neg (by simpa using notSigma)]
        exact List.mem_append_left _ List.mem_cons_self
      · exact List.mem_append_right _ (inductionHypothesis later)

/-! ### Blanks -/

/-- The blanks beyond ASCII. -/
def wideBlanks : List Nat :=
  [0x85, 0xA0, 0x1680, 0x2000, 0x2001, 0x2002, 0x2003, 0x2004, 0x2005, 0x2006, 0x2007, 0x2008,
    0x2009, 0x200A, 0x2028, 0x2029, 0x202F, 0x205F, 0x3000]

theorem covers_wideBlank : ∀ run ∈ lowerRuns, ∀ code ∈ wideBlanks, run.covers code = false := by
  unfold lowerRuns CaseRun.ofLines entriesOf
  simp only [List.flatMap_cons, List.flatMap_nil]
  -- Each line is turned into its characters here, since the kernel would do it byte by byte.
  repeat rw [String.toList_ofList]
  decide +kernel

/-- Blanks have no case. -/
theorem lowerCode_of_isBlank {char : Char} (blank : isBlank char = true) :
    lowerCode char.toNat = char.toNat := by
  simp only [isBlank, Bool.or_eq_true, Bool.and_eq_true, decide_eq_true_eq, beq_iff_eq] at blank
  by_cases ascii : char.toNat < 0x80
  · have small : ¬ (0x41 ≤ char.toNat && char.toNat ≤ 0x5A) = true := by
      simp only [Bool.and_eq_true, decide_eq_true_eq]
      omega
    rw [lowerCode, if_pos ascii, if_neg small]
  · have wide : char.toNat ∈ wideBlanks := by
      simp only [wideBlanks, List.mem_cons, List.not_mem_nil, or_false]
      omega
    have notDotted : ¬ (char.toNat == 0x130) = true := by
      rw [beq_iff_eq]
      omega
    have uncovered : lowerRuns.find? (·.covers char.toNat) = none := by
      rw [List.find?_eq_none]
      intro run member
      rw [covers_wideBlank run member _ wide]
      exact Bool.false_ne_true
    rw [lowerCode, if_neg ascii, if_neg notDotted, mapCase, uncovered]

end ForwardedClient.Text
