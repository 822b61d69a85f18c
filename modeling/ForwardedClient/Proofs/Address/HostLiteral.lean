import ForwardedClient.Address.HostLiteral
import ForwardedClient.Address.Port
import ForwardedClient.Proofs.Address.Ipv6

/-!
Contract: host literals that were written are read back.

Owns: the names that a literal can have, and the round trips of port numbers and of names with a
port number through their texts.

Does not own: withheld ports, which are never written.
-/

namespace ForwardedClient.Address

open ForwardedClient.Text

/-! ### Port numbers -/

section Port

variable {port : Nat}

theorem isAsciiDigit_of_mem_toDigits {char : Char} (member : char ∈ Nat.toDigits 10 port) :
    isAsciiDigit char = true := by
  have digit := Nat.isDigit_of_mem_toDigits (by decide) (by decide) member
  simp only [Char.isDigit, Bool.and_eq_true, decide_eq_true_eq] at digit
  simp only [isAsciiDigit, Bool.and_eq_true, decide_eq_true_eq]
  exact digit

theorem length_toDigits_of_bounded (bounded : port ≤ maxPort) :
    (Nat.toDigits 10 port).length ≤ 5 := by
  rw [Nat.length_toDigits_le_iff (by decide) (by decide)]
  unfold maxPort at bounded
  omega

theorem isPortNumeral_toDigits (bounded : port ≤ maxPort) :
    isPortNumeral (Nat.toDigits 10 port) = true := by
  simp only [isPortNumeral, Bool.and_eq_true, Bool.not_eq_true', List.isEmpty_eq_false_iff,
    decide_eq_true_eq, List.all_eq_true]
  exact ⟨⟨Nat.toDigits_ne_nil, length_toDigits_of_bounded bounded⟩,
    fun _ member => isAsciiDigit_of_mem_toDigits member⟩

/-- A port number, however large, can stand in a literal. -/
theorem isPortText_of_isPortNumeral {text : List Char} (numeral : isPortNumeral text = true) :
    isPortText text = true := by
  unfold isPortText
  split
  · rename_i token
    simp only [isPortNumeral, Bool.and_eq_true, List.all_eq_true] at numeral
    exact absurd (numeral.2 '_' List.mem_cons_self) (by decide)
  · exact numeral

theorem isDigitLike_of_isPortNumeral {text : List Char} (numeral : isPortNumeral text = true) :
    text ≠ [] ∧ ∀ char ∈ text, isDigitLike char = true := by
  simp only [isPortNumeral, Bool.and_eq_true, Bool.not_eq_true', List.isEmpty_eq_false_iff,
    List.all_eq_true] at numeral
  refine ⟨numeral.1.1, fun char member => ?_⟩
  have digit := numeral.2 char member
  rw [isDigitLike, if_pos (toNat_lt_of_isHexDigit (isHexDigit_of_isAsciiDigit digit))]
  exact digit

/-- Digits at the end of an address are taken for a port, which they can be. -/
theorem IsPlainIpv6.isPortNumeral_of_append {address last : List Char}
    (plain : IsPlainIpv6 (address ++ ':' :: last)) (noColon : ∀ char ∈ last, (char == ':') = false)
    (filled : last ≠ []) (digits : ∀ char ∈ last, isDigitLike char = true) :
    isPortNumeral last = true := by
  have group := plain.isGroup_of_append noColon filled digits
  simp only [isGroup, Bool.and_eq_true, decide_eq_true_eq, List.all_eq_true] at group
  simp only [isPortNumeral, Bool.and_eq_true, decide_eq_true_eq, List.all_eq_true]
  refine ⟨⟨group.1.1, by omega⟩, fun char member => ?_⟩
  exact isAsciiDigit_of_isHexDigit (group.2 char member) (digits char member)

theorem isPortText_toDigits (bounded : port ≤ maxPort) :
    isPortText (Nat.toDigits 10 port) = true :=
  isPortText_of_isPortNumeral (isPortNumeral_toDigits bounded)

/-- A port in a literal is made of the characters of a token, digits included. -/
theorem isTokenChar_of_mem {text : List Char} {char : Char} (checked : isPortText text = true)
    (member : char ∈ text) : isTokenChar char = true := by
  unfold isPortText at checked
  split at checked
  · rename_i token
    simp only [Bool.and_eq_true, List.all_eq_true] at checked
    rcases List.mem_cons.mp member with same | inside
    · exact same ▸ by decide
    · exact checked.2 char inside
  · simp only [Bool.and_eq_true, List.all_eq_true] at checked
    simp [isTokenChar, isAsciiAlphanumeric, checked.2 char member]

theorem noColon_of_isPortText {text : List Char} (checked : isPortText text = true) :
    ∀ char ∈ text, (char == ':') = false := by
  intro char member
  have token := isTokenChar_of_mem checked member
  rw [beq_eq_false_iff_ne]
  intro colon
  rw [colon] at token
  exact absurd token (by decide)

/-- No character of a token is a blank. -/
theorem isBlank_of_isTokenChar {char : Char} (token : isTokenChar char = true) :
    isBlank char = false := by
  have within : ∀ low high : Char, low ≤ char ∧ char ≤ high →
      low.toNat ≤ char.toNat ∧ char.toNat ≤ high.toNat := fun _ _ bounds => bounds
  have bounds : 0x2D ≤ char.toNat ∧ char.toNat ≤ 0x7A := by
    simp only [isTokenChar, isAsciiAlphanumeric, isAsciiLetter, isAsciiDigit, Bool.or_eq_true,
      Bool.and_eq_true, decide_eq_true_eq, beq_iff_eq] at token
    rcases token with ((((small | capital) | digit) | stop) | low) | hyphen
    · have reach := within 'a' 'z' small
      exact ⟨Nat.le_trans (by decide) reach.1, reach.2⟩
    · have reach := within 'A' 'Z' capital
      exact ⟨Nat.le_trans (by decide) reach.1, Nat.le_trans reach.2 (by decide)⟩
    · have reach := within '0' '9' digit
      exact ⟨Nat.le_trans (by decide) reach.1, Nat.le_trans reach.2 (by decide)⟩
    · subst stop
      decide
    · subst low
      decide
    · subst hyphen
      decide
  simp only [isBlank, Bool.or_eq_false_iff, Bool.and_eq_false_iff, decide_eq_false_iff_not,
    beq_eq_false_iff_ne]
  omega

theorem isBlank_of_isAsciiDigit {char : Char} (digit : isAsciiDigit char = true) :
    isBlank char = false :=
  isBlank_of_isTokenChar (by simp [isTokenChar, isAsciiAlphanumeric, digit])

theorem strip_of_noBlank {text : List Char} (noBlank : ∀ char ∈ text, isBlank char = false) :
    strip text = text := by
  have kept : ∀ rest : List Char, (∀ char ∈ rest, isBlank char = false) →
      rest.dropWhile isBlank = rest := by
    intro rest absent
    cases rest with
    | nil => rfl
    | cons char others =>
        exact List.dropWhile_cons_of_neg (by simp [absent char List.mem_cons_self])
  have reversed : ∀ char ∈ text.reverse, isBlank char = false :=
    fun char member => noBlank char (List.mem_reverse.mp member)
  rw [strip, stripWhile, kept text noBlank, kept text.reverse reversed, List.reverse_reverse]

/-- A port number is read back from its numeral. -/
theorem readPort_toString (bounded : port ≤ maxPort) : readPort (toString port) = .ok port := by
  have spelled : (toString port).toList = Nat.toDigits 10 port := by
    rw [Nat.toString_eq_repr, Nat.toList_repr]
  have stripped : strip (Nat.toDigits 10 port) = Nat.toDigits 10 port :=
    strip_of_noBlank fun _ member => isBlank_of_isAsciiDigit (isAsciiDigit_of_mem_toDigits member)
  have value : decimalValue (Nat.toDigits 10 port) = port := Nat.ofDigitChars_ten_toDigits
  simp only [readPort, spelled, stripped, isPortNumeral_toDigits bounded, if_true, value,
    if_pos bounded]

end Port

/-! ### Names -/

/-- The names of host literals: host names, and IPv6 addresses between brackets. -/
inductive IsLiteralName (name : String) : Prop where
  | host (named : isHostName name.toList = true)
  | bracketed (address : List Char) (spelled : name.toList = '[' :: address ++ [']'])
      (enclosed : ∀ char ∈ address, (char == ']') = false) (ipv6 : isIpv6 address = true)

/-- What stands between the full stops of a host name is a label, but for the end of a name with
a final full stop. -/
theorem isLabel_of_mem_pieces {text piece : List Char} (named : isHostName text = true)
    (isPiece : piece ∈ pieces (· == '.') text) (filled : piece ≠ []) : isLabel piece = true := by
  simp only [isHostName, Bool.and_eq_true, List.all_eq_true] at named
  obtain ⟨-, labels⟩ := named
  refine labels piece ?_
  split
  · rename_i ended
    have last : (pieces (· == '.') text).getLast? = some [] := by simpa using ended
    obtain ⟨before, cut⟩ := List.getLast?_eq_some_iff.mp last
    rw [cut, List.dropLast_concat]
    rw [cut] at isPiece
    exact (List.mem_append.mp isPiece).resolve_right fun final =>
      filled (List.mem_singleton.mp final)
  · exact isPiece

/-- A host name is made of labels and full stops. -/
theorem isLabelChar_of_mem {text : List Char} {char : Char} (named : isHostName text = true)
    (member : char ∈ text) : char = '.' ∨ isLabelChar char = true := by
  rcases mem_pieces_of_mem (· == '.') member with stop | ⟨piece, isPiece, here⟩
  · exact Or.inl (by simpa using stop)
  · have label := isLabel_of_mem_pieces named isPiece (List.ne_nil_of_mem here)
    simp only [isLabel, Bool.and_eq_true, List.all_eq_true] at label
    exact Or.inr (label.2 char here)

/-- A host name begins with a letter or a digit. -/
theorem noLowLine_of_isHostName {text : List Char} (named : isHostName text = true) :
    text.head? ≠ some '_' := by
  intro lowLine
  obtain ⟨rest, spelled⟩ := List.head?_eq_some_iff.mp lowLine
  subst spelled
  obtain ⟨first, others, cut⟩ := List.exists_cons_of_ne_nil (pieces_ne_nil (· == '.') rest)
  have isPiece : '_' :: first ∈ pieces (· == '.') ('_' :: rest) := by
    rw [pieces, if_neg (by decide), cut]
    exact List.mem_cons_self
  have label := isLabel_of_mem_pieces named isPiece (List.cons_ne_nil '_' first)
  simp only [isLabel, Bool.and_eq_true] at label
  have alphanumeric : isAsciiAlphanumeric '_' = true := label.1.1
  exact absurd alphanumeric (by decide)

theorem not_isLabelChar_colon : isLabelChar ':' = false := by decide

theorem not_isLabelChar_bracket : isLabelChar '[' = false := by decide

theorem noColon_of_isHostName {text : List Char} (named : isHostName text = true) :
    ∀ char ∈ text, (char == ':') = false := by
  intro char member
  rw [beq_eq_false_iff_ne]
  intro colon
  subst colon
  rcases isLabelChar_of_mem named member with stop | label
  · exact absurd stop (by decide)
  · rw [not_isLabelChar_colon] at label
    exact Bool.false_ne_true label

theorem noBracket_of_isHostName {text : List Char} (named : isHostName text = true) :
    ∀ rest, text ≠ '[' :: rest := by
  intro rest bracketed
  subst bracketed
  rcases isLabelChar_of_mem named List.mem_cons_self with stop | label
  · exact absurd stop (by decide)
  · rw [not_isLabelChar_bracket] at label
    exact Bool.false_ne_true label

theorem ne_nil_of_isHostName {text : List Char} (named : isHostName text = true) : text ≠ [] := by
  intro empty
  subst empty
  exact absurd named (by decide)

theorem IsLiteralName.ne_empty {name : String} (isName : IsLiteralName name) : name ≠ "" := by
  rintro rfl
  cases isName with
  | host named => exact ne_nil_of_isHostName named rfl
  | bracketed address spelled _ _ => exact absurd spelled (by simp)

/-- What follows an address if it has a port. -/
def portTail (port : Option (List Char)) : List Char := (port.map (List.cons ':')).getD []

namespace HostLiteral

variable {text whole : String} {literal : HostLiteral}

theorem eq_of_withPort {name : List Char} {port : Option (List Char)}
    (checked : withPort whole name port = .ok literal) :
    literal = ⟨String.ofList name, port.map String.ofList⟩ := by
  unfold withPort at checked
  cases port with
  | none =>
      injection checked with same
      exact same.symm
  | some port =>
      simp only at checked
      split at checked
      · injection checked with same
        exact same.symm
      · simp at checked

/-- A literal has only a port that was checked. -/
theorem isPortText_of_withPort {name : List Char} {port : Option (List Char)}
    (checked : withPort whole name port = .ok literal) :
    ∀ text, port = some text → isPortText text = true := by
  intro text same
  subst same
  by_cases fits : isPortText text = true
  · exact fits
  · simp [withPort, fits] at checked

/-- A text that begins with a bracket is an address up to the first closing bracket. -/
theorem read_bracketed {rest : List Char} (spelled : text.toList = '[' :: rest) :
    read text =
      match partitionAt (· == ']') rest with
      | (_, none) => .error (.unterminatedIpv6 text)
      | (address, some after) =>
        if Address.isIpv6 address then
          match after with
          | [] => withPort text ('[' :: address ++ [']']) none
          | ':' :: port => withPort text ('[' :: address ++ [']']) (some port)
          | _ => .error (.dataAfterIpv6 text)
        else .error (.invalidIpv6 text) := by
  unfold read
  rw [spelled]
  rfl

/-- Any other text is a name up to the first colon. -/
theorem read_unbracketed (filled : text.toList ≠ [])
    (plain : ∀ rest, text.toList ≠ '[' :: rest) :
    read text =
      if isHostName (partitionAt (· == ':') text.toList).1 then
        withPort text (partitionAt (· == ':') text.toList).1
          (partitionAt (· == ':') text.toList).2
      else .error (.invalidName text) := by
  unfold read
  split
  · rename_i empty
    exact absurd empty filled
  · rename_i rest bracketed
    exact absurd bracketed (plain rest)
  · rfl

/-- An address between brackets is read up to its port. -/
theorem read_enclosed {address : List Char} {port : Option (List Char)}
    (spelled : text.toList = '[' :: (address ++ ']' :: portTail port))
    (enclosed : ∀ char ∈ address, (char == ']') = false) (ipv6 : Address.isIpv6 address = true) :
    read text = withPort text ('[' :: address ++ [']']) port := by
  rw [read_bracketed spelled, partitionAt_append (by decide) enclosed]
  simp only [ipv6, if_true]
  cases port <;> rfl

/-- The cut at the first colon loses nothing of a text. -/
theorem partitionAt_colon_rejoined (text : List Char) :
    text = (partitionAt (· == ':') text).1 ++ portTail (partitionAt (· == ':') text).2 := by
  cases cut : partitionAt (· == ':') text with
  | mk name port =>
      cases port with
      | none => simp [(partitionAt_none cut).1, portTail]
      | some port =>
          obtain ⟨colon, isColon, split, -⟩ := partitionAt_some cut
          have same : colon = ':' := by simpa using isColon
          rw [same] at split
          exact split

/-- A text that is read is a name, alone or with a colon and a checked port after it. -/
theorem cases_of_read (accepted : read text = .ok literal) :
    ∃ (name : List Char) (port : Option (List Char)),
      literal = ⟨String.ofList name, port.map String.ofList⟩ ∧
      text.toList = name ++ portTail port ∧
      IsLiteralName (String.ofList name) ∧
      ∀ checked, port = some checked → isPortText checked = true := by
  by_cases bracketed : ∃ rest, text.toList = '[' :: rest
  · obtain ⟨rest, spelled⟩ := bracketed
    rw [read_bracketed spelled] at accepted
    split at accepted
    · simp at accepted
    · rename_i address after cut
      obtain ⟨closing, isClosing, split, enclosed⟩ := partitionAt_some cut
      have closed : closing = ']' := by simpa using isClosing
      have whole : text.toList = ('[' :: address ++ [']']) ++ after := by
        rw [spelled, split, closed, List.append_assoc]
        rfl
      by_cases ipv6 : Address.isIpv6 address = true
      · have isName : IsLiteralName (String.ofList ('[' :: address ++ [']'])) :=
          .bracketed address String.toList_ofList enclosed ipv6
        rw [if_pos ipv6] at accepted
        split at accepted
        · exact ⟨_, none, eq_of_withPort accepted, whole, isName, isPortText_of_withPort accepted⟩
        · rename_i port
          exact ⟨_, some port, eq_of_withPort accepted, whole, isName,
            isPortText_of_withPort accepted⟩
        · simp at accepted
      · rw [if_neg ipv6] at accepted
        simp at accepted
  · have plain : ∀ rest, text.toList ≠ '[' :: rest := fun rest spelled => bracketed ⟨rest, spelled⟩
    by_cases filled : text.toList = []
    · simp [read, filled] at accepted
    · rw [read_unbracketed filled plain] at accepted
      split at accepted
      · rename_i named
        exact ⟨_, _, eq_of_withPort accepted, partitionAt_colon_rejoined _,
          .host (by rwa [String.toList_ofList]), isPortText_of_withPort accepted⟩
      · simp at accepted

/-- Every literal that is read has such a name. -/
theorem isLiteralName_of_read (accepted : read text = .ok literal) :
    IsLiteralName literal.name := by
  obtain ⟨name, port, same, -, isName, -⟩ := cases_of_read accepted
  rw [same]
  exact isName

/-- Name and port of a literal are parts of the text it was read from. -/
theorem mem_of_read (accepted : read text = .ok literal) {char : Char} :
    (char ∈ literal.name.toList → char ∈ text.toList) ∧
      ∀ port, literal.port = some port → char ∈ port.toList → char ∈ text.toList := by
  obtain ⟨name, port, same, spelled, -, -⟩ := cases_of_read accepted
  subst same
  rw [spelled]
  refine ⟨?_, ?_⟩
  · intro member
    rw [String.toList_ofList] at member
    exact List.mem_append_left _ member
  · intro shown isPort member
    cases port with
    | none => simp at isPort
    | some port =>
        rw [← Option.some.inj isPort, String.toList_ofList] at member
        exact List.mem_append_right _ (List.mem_cons_of_mem ':' member)

end HostLiteral

/-- An IPv4 address is read as a host name of four labels. -/
theorem isHostName_of_isIpv4 {text : List Char} (dotted : isIpv4 text = true) :
    isHostName text = true := by
  simp only [isIpv4, Bool.and_eq_true, beq_iff_eq, List.all_eq_true] at dotted
  obtain ⟨four, octets⟩ := dotted
  have unended : ¬ ((pieces (· == '.') text).getLast? == some []) = true := by
    intro ended
    rw [beq_iff_eq] at ended
    have empty := octets [] (List.mem_of_getLast? ended)
    exact absurd empty (by decide)
  have labels : ∀ octet ∈ pieces (· == '.') text, isLabel octet = true := by
    intro octet member
    have isOne := octets octet member
    have alphanumeric : ∀ char ∈ octet, isAsciiAlphanumeric char = true := by
      intro char inside
      simp [isAsciiAlphanumeric, isAsciiDigit_of_mem_octet isOne inside]
    have filled : octet ≠ [] := by
      intro empty
      rw [empty] at isOne
      exact absurd isOne (by decide)
    simp only [isLabel, List.head?_eq_some_head filled, List.getLast?_eq_some_getLast filled,
      Option.any_some, Bool.and_eq_true, List.all_eq_true, isLabelChar, Bool.or_eq_true]
    exact ⟨⟨alphanumeric _ (List.head_mem filled), alphanumeric _ (List.getLast_mem filled)⟩,
      fun char inside => Or.inl (Or.inl (alphanumeric char inside))⟩
  have several : (pieces (· == '.') text).isEmpty = false := by
    rw [List.isEmpty_eq_false_iff]
    exact pieces_ne_nil (· == '.') text
  simp only [isHostName, if_neg unended, several, Bool.not_false, Bool.true_and, List.all_eq_true]
  exact labels

/-! ### Names with a port number -/

theorem formatHost_ne_empty {text : String} (filled : text ≠ "") (port : Option Int) :
    formatHost text port ≠ "" := by
  intro empty
  have letters := congrArg String.toList empty
  unfold formatHost at letters
  by_cases bare : (text.toList.contains ':' && text.toList.head? != some '[') = true
  · rw [if_pos bare] at letters
    cases port <;> simp [String.toList_append] at letters
  · rw [if_neg bare] at letters
    cases port with
    | none => exact filled (String.toList_inj.mp letters)
    | some number => simp [String.toList_append] at letters

/-- A name is shown as it is: it brings its own brackets. -/
theorem formatHost_eq {name : String} (isName : IsLiteralName name) (port : Option Int) :
    formatHost name port =
      match port with
      | none => name
      | some port => name ++ ":" ++ toString port := by
  have shown : ¬ (name.toList.contains ':' && name.toList.head? != some '[') = true := by
    cases isName with
    | host named =>
        have colon : name.toList.contains ':' = false := by
          rw [List.contains_eq_mem, decide_eq_false_iff_not]
          intro member
          exact absurd (noColon_of_isHostName named ':' member) (by decide)
        rw [colon]
        simp
    | bracketed address spelled _ _ => simp [spelled]
  cases port <;> simp only [formatHost, if_neg shown]

theorem toList_formatHost {name : String} (isName : IsLiteralName name) (port : Option Nat) :
    (formatHost name (port.map Int.ofNat)).toList =
      name.toList ++ portTail (port.map (Nat.toDigits 10)) := by
  rw [formatHost_eq isName]
  cases port with
  | none => exact (List.append_nil _).symm
  | some number =>
      have numeral : (toString (Int.ofNat number)).toList = Nat.toDigits 10 number := by
        show (toString number).toList = _
        rw [Nat.toString_eq_repr, Nat.toList_repr]
      show (name ++ ":" ++ toString (Int.ofNat number)).toList = _
      rw [String.toList_append, String.toList_append, numeral, List.append_assoc]
      rfl

theorem withPort_toDigits (whole : String) (name : List Char) {port : Option Nat}
    (bounded : ∀ number, port = some number → number ≤ maxPort) :
    HostLiteral.withPort whole name (port.map (Nat.toDigits 10)) =
      .ok ⟨String.ofList name, port.map toString⟩ := by
  cases port with
  | none => rfl
  | some number =>
      simp only [Option.map_some, HostLiteral.withPort, isPortText_toDigits (bounded number rfl),
        if_true, Nat.toString_eq_ofList_toDigits]

theorem partitionAt_portTail {text : List Char} (named : isHostName text = true)
    (port : Option (List Char)) :
    partitionAt (· == ':') (text ++ portTail port) = (text, port) := by
  cases port with
  | none =>
      rw [portTail, Option.map_none, Option.getD_none, List.append_nil]
      exact partitionAt_of_none _ text (noColon_of_isHostName named)
  | some digits => exact partitionAt_append (by decide) (noColon_of_isHostName named) _

/-- A name that a literal can have is read up to the port that follows it. -/
theorem HostLiteral.read_of_isLiteralName {name text : String} (isName : IsLiteralName name)
    {tail : Option (List Char)} (spelled : text.toList = name.toList ++ portTail tail) :
    read text = withPort text name.toList tail := by
  cases isName with
  | host named =>
      have filled : name.toList ++ portTail tail ≠ [] :=
        List.append_ne_nil_of_left_ne_nil (ne_nil_of_isHostName named) _
      have plain : ∀ rest, name.toList ++ portTail tail ≠ '[' :: rest := by
        intro rest same
        cases letters : name.toList with
        | nil => exact ne_nil_of_isHostName named letters
        | cons first others =>
            rw [letters, List.cons_append] at same
            injection same with bracket _
            rw [bracket] at letters
            exact noBracket_of_isHostName named others letters
      rw [read_unbracketed (spelled ▸ filled) (spelled ▸ plain), spelled,
        partitionAt_portTail named tail, if_pos named]
  | bracketed address written enclosed ipv6 =>
      have opened : text.toList = '[' :: (address ++ ']' :: portTail tail) := by
        rw [spelled, written, List.cons_append, List.cons_append, List.append_assoc]
        rfl
      rw [read_enclosed opened enclosed ipv6, written]

/-- A name that is written, with or without a port number, is read back. -/
theorem read_formatHost {name : String} (isName : IsLiteralName name) (port : Option Nat)
    (bounded : ∀ number, port = some number → number ≤ maxPort) :
    HostLiteral.read (formatHost name (port.map Int.ofNat)) = .ok ⟨name, port.map toString⟩ := by
  rw [HostLiteral.read_of_isLiteralName isName (toList_formatHost isName port),
    withPort_toDigits _ _ bounded, String.ofList_toList]

/-- A port number fits into a literal if it has no sign and at most five digits. -/
theorem isPortText_toString_iff {port : Int} :
    isPortText (toString port).toList = true ↔ 0 ≤ port ∧ port < 100000 := by
  cases port with
  | ofNat number =>
      have numeral : (toString (Int.ofNat number)).toList = Nat.toDigits 10 number := by
        show (toString number).toList = _
        rw [Nat.toString_eq_repr, Nat.toList_repr]
      have digits : ∀ char ∈ Nat.toDigits 10 number, isAsciiDigit char = true :=
        fun _ member => isAsciiDigit_of_mem_toDigits member
      have short : (Nat.toDigits 10 number).length ≤ 5 ↔ number < 100000 :=
        Nat.length_toDigits_le_iff (by decide) (by decide)
      have checked : isPortText (Nat.toDigits 10 number) = true ↔
          (Nat.toDigits 10 number).length ≤ 5 := by
        unfold isPortText
        split
        · rename_i token spelled
          have digit := digits '_' (spelled ▸ List.mem_cons_self)
          exact absurd digit (by decide)
        · simp only [Bool.and_eq_true, Bool.not_eq_true', List.isEmpty_eq_false_iff,
            decide_eq_true_eq, List.all_eq_true]
          exact ⟨fun all => all.1.2, fun few => ⟨⟨Nat.toDigits_ne_nil, few⟩, digits⟩⟩
      rw [numeral, checked, short]
      simp only [Int.ofNat_eq_natCast]
      omega
  | negSucc number =>
      have signed : (toString (Int.negSucc number)).toList =
          '-' :: Nat.toDigits 10 (number + 1) := by
        show ("-" ++ toString (number + 1)).toList = _
        rw [String.toList_append, Nat.toString_eq_repr, Nat.toList_repr]
        rfl
      have unchecked : isPortText ('-' :: Nat.toDigits 10 (number + 1)) = false := by
        simp [isPortText, show isAsciiDigit '-' = false by decide]
      rw [signed, unchecked]
      simp only [Bool.false_eq_true, false_iff]
      omega

/-- Exactly the port numbers that fit make a name and its port a literal. -/
theorem exists_read_formatHost_iff {name : String} (isName : IsLiteralName name)
    (port : Option Int) :
    (∃ literal, HostLiteral.read (formatHost name port) = .ok literal) ↔
      ∀ number, port = some number → 0 ≤ number ∧ number < 100000 := by
  have spelled : (formatHost name port).toList =
      name.toList ++ portTail (port.map fun number => (toString number).toList) := by
    rw [formatHost_eq isName]
    cases port with
    | none => exact (List.append_nil _).symm
    | some number =>
        simp only [String.toList_append, List.append_assoc]
        rfl
  rw [HostLiteral.read_of_isLiteralName isName spelled]
  cases port with
  | none => simp [HostLiteral.withPort]
  | some number =>
      simp only [Option.map_some, HostLiteral.withPort, Option.some.injEq, forall_eq',
        ← isPortText_toString_iff]
      cases isPortText (toString number).toList <;> simp

end ForwardedClient.Address
