import ForwardedClient.Proofs.Address.HostLiteral

/-!
Contract: host literals as a grammar.

Owns: how labels, host names, ports and literals are spelled, and the law that reading accepts
exactly what is spelled so, with the name and the port that were spelled.

Does not own: which texts are IPv6 addresses; the grammar takes them as they are.
-/

namespace ForwardedClient.Address

open ForwardedClient.Text

/-! ### Labels -/

/-- How a label is spelled: a letter or digit, alone or at both ends of label characters. -/
inductive LabelSpelling : List Char → Prop where
  | single {char : Char} (isEnd : isAsciiAlphanumeric char = true) : LabelSpelling [char]
  | between {first last : Char} {inner : List Char} (opens : isAsciiAlphanumeric first = true)
      (inside : ∀ char ∈ inner, isLabelChar char = true)
      (closes : isAsciiAlphanumeric last = true) : LabelSpelling (first :: (inner ++ [last]))

theorem isLabelChar_of_isAsciiAlphanumeric {char : Char}
    (alphanumeric : isAsciiAlphanumeric char = true) : isLabelChar char = true := by
  simp [isLabelChar, alphanumeric]

theorem getLast?_between (first last : Char) (inner : List Char) :
    (first :: (inner ++ [last])).getLast? = some last := by
  rw [← List.cons_append, List.getLast?_concat]

theorem isLabel_iff {label : List Char} : isLabel label = true ↔ LabelSpelling label := by
  simp only [isLabel, Bool.and_eq_true, List.all_eq_true]
  constructor
  · rintro ⟨⟨opens, closes⟩, inside⟩
    cases label with
    | nil => exact absurd opens Bool.false_ne_true
    | cons first rest =>
        rcases List.eq_nil_or_concat rest with alone | ⟨inner, last, split⟩
        · exact alone ▸ .single opens
        · rw [List.concat_eq_append] at split
          subst split
          rw [getLast?_between] at closes
          refine .between opens (fun char member => inside char ?_) closes
          exact List.mem_cons_of_mem first (List.mem_append_left [last] member)
  · intro spelled
    cases spelled with
    | single isEnd =>
        exact ⟨⟨isEnd, isEnd⟩, by simpa using isLabelChar_of_isAsciiAlphanumeric isEnd⟩
    | between opens inside closes =>
        rw [getLast?_between]
        refine ⟨⟨opens, closes⟩, fun char member => ?_⟩
        rcases List.mem_cons.mp member with isFirst | later
        · exact isFirst ▸ isLabelChar_of_isAsciiAlphanumeric opens
        · rcases List.mem_append.mp later with inner | isLast
          · exact inside char inner
          · exact List.mem_singleton.mp isLast ▸ isLabelChar_of_isAsciiAlphanumeric closes

theorem LabelSpelling.ne_nil {label : List Char} (spelled : LabelSpelling label) : label ≠ [] := by
  cases spelled <;> exact List.cons_ne_nil _ _

theorem LabelSpelling.noStop {label : List Char} (spelled : LabelSpelling label) :
    '.' ∉ label := by
  intro member
  have label := isLabel_iff.mpr spelled
  simp only [isLabel, Bool.and_eq_true, List.all_eq_true] at label
  exact absurd (label.2 '.' member) (by decide)

/-! ### Host names -/

/-- How a host name is spelled: labels with full stops between them, at least one label, and
perhaps one more full stop at the end. -/
inductive HostSpelling : List Char → Prop where
  | labels {labels : List (List Char)} (filled : labels ≠ [])
      (each : ∀ label ∈ labels, LabelSpelling label) : HostSpelling (['.'].intercalate labels)
  | stopped {labels : List (List Char)} (filled : labels ≠ [])
      (each : ∀ label ∈ labels, LabelSpelling label) :
      HostSpelling (['.'].intercalate labels ++ ['.'])

/-- A name whose pieces are labels, or labels and an empty piece at the end, is a host name. -/
theorem isHostName_of_pieces {text : List Char} {labels : List (List Char)} (filled : labels ≠ [])
    (each : ∀ label ∈ labels, LabelSpelling label)
    (cut : pieces (· == '.') text = labels ∨ pieces (· == '.') text = labels ++ [[]]) :
    isHostName text = true := by
  have kept : (if (pieces (· == '.') text).getLast? == some [] then
      (pieces (· == '.') text).dropLast else pieces (· == '.') text) = labels := by
    rcases cut with same | ended
    · have unended : ¬ (labels.getLast? == some []) = true := by
        rw [beq_iff_eq]
        exact fun last => (each [] (List.mem_of_getLast? last)).ne_nil rfl
      rw [same, if_neg unended]
    · rw [ended, if_pos (by simp), List.dropLast_concat]
  simp only [isHostName, kept, Bool.and_eq_true, Bool.not_eq_true', List.isEmpty_eq_false_iff,
    List.all_eq_true]
  exact ⟨filled, fun label member => isLabel_iff.mpr (each label member)⟩

theorem isHostName_iff {text : List Char} : isHostName text = true ↔ HostSpelling text := by
  constructor
  · intro named
    simp only [isHostName, Bool.and_eq_true, Bool.not_eq_true', List.isEmpty_eq_false_iff,
      List.all_eq_true, isLabel_iff] at named
    have joined := intercalate_pieces '.' text
    by_cases ended : (pieces (· == '.') text).getLast? = some []
    · obtain ⟨before, cut⟩ := List.getLast?_eq_some_iff.mp ended
      rw [if_pos (by simpa using ended), cut, List.dropLast_concat] at named
      rw [cut, intercalate_concat_nil '.' named.1] at joined
      exact joined ▸ .stopped named.1 named.2
    · rw [if_neg (by simpa using ended)] at named
      exact joined ▸ .labels named.1 named.2
  · intro spelled
    cases spelled with
    | labels filled each =>
        exact isHostName_of_pieces filled each
          (Or.inl (pieces_intercalate filled fun label member => (each label member).noStop))
    | @stopped labels filled each =>
        refine isHostName_of_pieces filled each (Or.inr ?_)
        rw [← intercalate_concat_nil '.' filled]
        refine pieces_intercalate (List.concat_ne_nil _ _) fun label member => ?_
        rcases List.mem_append.mp member with inside | isLast
        · exact (each label inside).noStop
        · exact List.mem_singleton.mp isLast ▸ List.not_mem_nil

/-! ### Ports and literals -/

/-- How a port is spelled: one to five digits, or a low line and at least one token character. -/
inductive PortSpelling : List Char → Prop where
  | number {digits : List Char} (filled : 1 ≤ digits.length) (few : digits.length ≤ 5)
      (each : ∀ char ∈ digits, isAsciiDigit char = true) : PortSpelling digits
  | withheld {token : List Char} (filled : token ≠ [])
      (each : ∀ char ∈ token, isTokenChar char = true) : PortSpelling ('_' :: token)

theorem isPortNumeral_iff {digits : List Char} :
    isPortNumeral digits = true ↔
      1 ≤ digits.length ∧ digits.length ≤ 5 ∧ ∀ char ∈ digits, isAsciiDigit char = true := by
  simp only [isPortNumeral, Bool.and_eq_true, Bool.not_eq_true', List.isEmpty_eq_false_iff,
    decide_eq_true_eq, List.all_eq_true, and_assoc, Nat.one_le_iff_ne_zero, ne_eq,
    List.length_eq_zero_iff]

theorem isPortText_iff {port : List Char} : isPortText port = true ↔ PortSpelling port := by
  constructor
  · intro checked
    unfold isPortText at checked
    split at checked
    · simp only [Bool.and_eq_true, Bool.not_eq_true', List.isEmpty_eq_false_iff,
        List.all_eq_true] at checked
      exact .withheld checked.1 checked.2
    · simp only [Bool.and_eq_true, Bool.not_eq_true', List.isEmpty_eq_false_iff,
        decide_eq_true_eq, List.all_eq_true] at checked
      exact .number (List.length_pos_iff.mpr checked.1.1) checked.1.2 checked.2
  · intro spelled
    cases spelled with
    | number filled few each =>
        exact isPortText_of_isPortNumeral (isPortNumeral_iff.mpr ⟨filled, few, each⟩)
    | withheld filled each =>
        simp only [isPortText, Bool.and_eq_true, Bool.not_eq_true', List.isEmpty_eq_false_iff,
          List.all_eq_true]
        exact ⟨filled, each⟩

/-- How the name of a literal is spelled: as a host name, or as an IPv6 address between brackets
that does not close them itself. -/
inductive NameSpelling : List Char → Prop where
  | host {text : List Char} (spelled : HostSpelling text) : NameSpelling text
  | enclosed {address : List Char} (unclosed : ']' ∉ address) (ipv6 : isIpv6 address = true) :
      NameSpelling ('[' :: address ++ [']'])

theorem isLiteralName_iff {name : String} : IsLiteralName name ↔ NameSpelling name.toList := by
  constructor
  · intro isName
    cases isName with
    | host named => exact .host (isHostName_iff.mp named)
    | bracketed address spelled enclosed ipv6 =>
        rw [spelled]
        exact .enclosed (fun member => absurd (enclosed ']' member) (by decide)) ipv6
  · intro spelled
    generalize letters : name.toList = text at spelled
    cases spelled with
    | host spelled => exact .host (letters ▸ isHostName_iff.mpr spelled)
    | @enclosed address unclosed ipv6 =>
        refine .bracketed address letters (fun char member => ?_) ipv6
        rw [beq_eq_false_iff_ne]
        exact fun same => unclosed (same ▸ member)

/-- A text spells a literal: it is the name, alone or with a colon and the port after it. -/
structure Spells (text : String) (literal : HostLiteral) : Prop where
  named : NameSpelling literal.name.toList
  ported : ∀ port, literal.port = some port → PortSpelling port.toList
  whole : text = literal.name ++ (literal.port.map (":" ++ ·)).getD ""

namespace HostLiteral

variable {text : String} {literal : HostLiteral}

theorem spells_of_read (accepted : read text = .ok literal) : Spells text literal := by
  obtain ⟨name, port, same, spelled, isName, checked⟩ := cases_of_read accepted
  subst same
  refine ⟨isLiteralName_iff.mp isName, ?_, ?_⟩
  · intro shown isPort
    obtain ⟨letters, isLetters, same⟩ := Option.map_eq_some_iff.mp isPort
    rw [← same, String.toList_ofList]
    exact isPortText_iff.mp (checked letters isLetters)
  · apply String.toList_inj.mp
    rw [spelled]
    cases port <;> simp [portTail]

theorem read_of_spells (spells : Spells text literal) : read text = .ok literal := by
  obtain ⟨name, port⟩ := literal
  obtain ⟨named, ported, whole⟩ := spells
  have spelled : text.toList = name.toList ++ portTail (port.map String.toList) := by
    rw [whole]
    cases port <;> simp [portTail]
  rw [read_of_isLiteralName (isLiteralName_iff.mpr named) spelled]
  cases port with
  | none => simp only [Option.map_none, withPort, String.ofList_toList]
  | some port =>
      simp only [Option.map_some, withPort, isPortText_iff.mpr (ported port rfl), if_true,
        String.ofList_toList]

/-- Reading accepts exactly what the grammar spells and loses nothing of it: it gives the name and
the port of which the text is made, there are no two ways to make a text of a name and a port,
and each name that was read is read again when it is written with a port number. -/
theorem literals_are_read_as_spelled :
    (∀ text literal, read text = .ok literal ↔ Spells text literal) ∧
      (∀ text first second, Spells text first → Spells text second → first = second) ∧
      ∀ text literal, read text = .ok literal → ∀ number : Nat, number ≤ 65535 →
        read (formatHost literal.name (some (Int.ofNat number))) =
          .ok ⟨literal.name, some (toString number)⟩ := by
  refine ⟨fun text literal => ⟨spells_of_read, read_of_spells⟩, ?unique, ?again⟩
  case unique =>
    intro text first second firstSpells secondSpells
    exact Except.ok.inj ((read_of_spells firstSpells).symm.trans (read_of_spells secondSpells))
  case again =>
    intro text literal accepted number bounded
    exact read_formatHost (isLiteralName_of_read accepted) (some number)
      fun other same => Option.some.inj same ▸ bounded

/-- An address with a zone, and a port that is withheld. -/
theorem spells_zonedLiteral :
    Spells "[fe80::1%eth0]:_edge.1" ⟨"[fe80::1%eth0]", some "_edge.1"⟩ where
  named := @NameSpelling.enclosed "fe80::1%eth0".toList (by decide) (by decide +kernel)
  ported := by
    intro port isPort
    rw [← Option.some.inj isPort]
    exact isPortText_iff.mp (by decide +kernel)
  whole := by decide

theorem zonedLiteral_is_read_as_spelled :
    read "[fe80::1%eth0]:_edge.1" = .ok ⟨"[fe80::1%eth0]", some "_edge.1"⟩ ∧
      (∀ other, Spells "[fe80::1%eth0]:_edge.1" other →
        other = ⟨"[fe80::1%eth0]", some "_edge.1"⟩) ∧
      read (formatHost "[fe80::1%eth0]" (some 8080)) = .ok ⟨"[fe80::1%eth0]", some "8080"⟩ := by
  obtain ⟨exactly, unique, again⟩ := literals_are_read_as_spelled
  have accepted := (exactly _ _).mpr spells_zonedLiteral
  exact ⟨accepted, fun other spells => unique _ other _ spells spells_zonedLiteral,
    again _ _ accepted 8080 (by decide)⟩

end HostLiteral

end ForwardedClient.Address
