import ForwardedClient.Forwarded.DirectiveMap
import ForwardedClient.Proofs.Address.HostLiteral

/-!
Contract: nodes are read back from the header they were written into.

Owns: the nodes that have one reading, how a value is bracketed, and the round trip of a node
through its brackets.

Does not own: the pairs and directives around a node, and zones, whose addresses lose their
brackets for good.
-/

namespace ForwardedClient.Forwarded

open ForwardedClient.Address
open ForwardedClient.Text

/-! ### Nodes -/

/-- A host name, an IPv4 address or an unbracketed IPv6 address without a zone, each of them with
or without a port that can stand in a host literal. -/
inductive IsNode (value : String) : Prop where
  | named (name : List Char) (port : Option (List Char))
      (spelled : value.toList = name ++ portTail port)
      (host : isHostName name = true ∨ isIpv4 name = true)
      (checked : ∀ text, port = some text → isPortText text = true)
  | ipv6 (address : List Char) (port : Option (List Char))
      (spelled : value.toList = address ++ portTail port) (plain : IsPlainIpv6 address)
      (checked : ∀ text, port = some text → isPortText text = true)

theorem mem_portTail {port : Option (List Char)} {char : Char}
    (checked : ∀ text, port = some text → isPortText text = true)
    (member : char ∈ portTail port) : char = ':' ∨ isTokenChar char = true := by
  cases port with
  | none => exact absurd member List.not_mem_nil
  | some text =>
      rcases List.mem_cons.mp member with colon | inside
      · exact Or.inl colon
      · exact Or.inr (isTokenChar_of_mem (checked text rfl) inside)

theorem isHostName_of_or {name : List Char} (host : isHostName name = true ∨ isIpv4 name = true) :
    isHostName name = true :=
  host.elim id isHostName_of_isIpv4

theorem isTokenChar_of_isHexDigit {char : Char} (digit : isHexDigit char = true) :
    isTokenChar char = true := by
  unfold isHexDigit hexDigitValue? at digit
  simp only [isTokenChar, isAsciiAlphanumeric, isAsciiLetter, isAsciiDigit]
  split at digit
  · rename_i decimal
    simp [decimal]
  · split at digit
    · rename_i small
      have upper : char ≤ 'z' := Char.le_trans small.2 (by decide)
      simp [small.1, upper]
    · split at digit
      · rename_i capital
        have upper : char ≤ 'Z' := Char.le_trans capital.2 (by decide)
        simp [capital.1, upper]
      · exact absurd digit (by decide)

theorem isTokenChar_of_isHostName {name : List Char} (host : isHostName name = true) {char : Char}
    (member : char ∈ name) : isTokenChar char = true := by
  rcases isLabelChar_of_mem host member with stop | label
  · exact stop ▸ by decide
  · simp only [isLabelChar, Bool.or_eq_true] at label
    rcases label with (alphanumeric | low) | hyphen
    · simp [isTokenChar, alphanumeric]
    · simp [isTokenChar, low]
    · simp [isTokenChar, hyphen]

theorem isTokenChar_of_isPlainIpv6 {address : List Char} (plain : IsPlainIpv6 address)
    {char : Char} (member : char ∈ address) : char = ':' ∨ isTokenChar char = true := by
  rcases plain.mem_cases member with colon | stop | digit
  · exact Or.inl colon
  · exact Or.inr (stop ▸ by decide)
  · exact Or.inr (isTokenChar_of_isHexDigit digit)

/-- Nodes are made of the characters of tokens and of colons. -/
theorem IsNode.mem_cases {value : String} (node : IsNode value) {char : Char}
    (member : char ∈ value.toList) : char = ':' ∨ isTokenChar char = true := by
  cases node with
  | named name port spelled host checked =>
      rw [spelled] at member
      rcases List.mem_append.mp member with inName | inPort
      · exact Or.inr (isTokenChar_of_isHostName (isHostName_of_or host) inName)
      · exact mem_portTail checked inPort
  | ipv6 address port spelled plain checked =>
      rw [spelled] at member
      rcases List.mem_append.mp member with inAddress | inPort
      · exact isTokenChar_of_isPlainIpv6 plain inAddress
      · exact mem_portTail checked inPort

theorem IsNode.ne_of_mem {value : String} (node : IsNode value) {char other : Char}
    (member : char ∈ value.toList) (foreign : other ≠ ':' ∧ isTokenChar other = false) :
    char ≠ other := by
  intro same
  rcases node.mem_cases member with colon | token
  · exact foreign.1 (same.symm.trans colon)
  · rw [same, foreign.2] at token
    exact Bool.false_ne_true token

/-! ### The last colon -/

theorem splitAtLastColon_eq {value : String} {address last : List Char}
    (spelled : value.toList = address ++ ':' :: last)
    (noColon : ∀ char ∈ last, (char == ':') = false) :
    splitAtLastColon value = (String.ofList address, String.ofList last) := by
  have reversed : value.toList.reverse = last.reverse ++ ':' :: address.reverse := by
    rw [spelled, List.reverse_append, List.reverse_cons, List.append_assoc]
    rfl
  have absent : ∀ char ∈ last.reverse, (char == ':') = false :=
    fun char member => noColon char (List.mem_reverse.mp member)
  rw [splitAtLastColon, reversed, partitionAt_append (by decide) absent]
  simp only [Option.getD_some, List.reverse_reverse]

theorem exists_last_colon {text : List Char} (colon : ':' ∈ text) :
    ∃ address last, text = address ++ ':' :: last ∧ ∀ char ∈ last, (char == ':') = false := by
  cases cut : partitionAt (· == ':') text.reverse with
  | mk last before =>
      cases before with
      | none =>
          have absent := (partitionAt_none cut).2 ':' (List.mem_reverse.mpr colon)
          exact absurd absent (by decide)
      | some before =>
          obtain ⟨separator, isColon, split, noColon⟩ := partitionAt_some cut
          have same : separator = ':' := by simpa using isColon
          refine ⟨before.reverse, last.reverse, ?_, fun char member =>
            noColon char (List.mem_reverse.mp member)⟩
          have whole := congrArg List.reverse split
          rw [List.reverse_reverse, List.reverse_append, List.reverse_cons, List.append_assoc,
            same] at whole
          exact whole

/-! ### Brackets -/

/-- The two ways to bracket a value: all of it, or all before its last colon. -/
inductive IsBracketed (value : String) : String → Prop where
  | whole : IsBracketed value ("[" ++ value ++ "]")
  | port (address last : String) (split : value = address ++ ":" ++ last) :
      IsBracketed value ("[" ++ address ++ "]:" ++ last)

theorem isBracketed_bracket {value : String} (colon : ':' ∈ value.toList) :
    IsBracketed value (bracket value) := by
  obtain ⟨address, last, spelled, noColon⟩ := exists_last_colon colon
  have split : value = String.ofList address ++ ":" ++ String.ofList last := by
    apply String.toList_inj.mp
    simp only [spelled, String.toList_append, String.toList_ofList, List.append_assoc]
    rfl
  unfold bracket
  simp only [splitAtLastColon_eq spelled noColon]
  split
  · exact .port _ _ split
  · split
    · exact .whole
    · exact .port _ _ split

theorem mem_address {host : HostLiteral} {char : Char} (member : char ∈ host.address.toList) :
    char ∈ host.name.toList := by
  unfold HostLiteral.address at member
  split at member
  · rw [String.toList_ofList] at member
    exact List.mem_of_mem_tail (List.dropLast_subset _ member)
  · exact member

/-- A value without brackets is made of parts of the value and of a colon. -/
theorem mem_unbracket {value : String} {char : Char}
    (member : char ∈ (unbracket value).1.toList) : char ∈ value.toList ∨ char = ':' := by
  unfold unbracket at member
  cases parsed : HostLiteral.read value with
  | error failure =>
      rw [parsed] at member
      exact Or.inl member
  | ok host =>
      have inAddress : char ∈ host.address.toList → char ∈ value.toList :=
        fun inside => (HostLiteral.mem_of_read parsed).1 (mem_address inside)
      cases isPort : host.port with
      | none =>
          simp only [parsed, isPort] at member
          exact Or.inl (inAddress member)
      | some port =>
          simp only [parsed, isPort, String.toList_append, List.mem_append] at member
          rcases member with (address | colon) | inPort
          · exact Or.inl (inAddress address)
          · exact Or.inr (List.mem_singleton.mp colon)
          · exact Or.inl ((HostLiteral.mem_of_read parsed).2 port isPort inPort)

/-- The name of a literal is more than its brackets. -/
theorem address_ne_empty {host : HostLiteral} (isName : IsLiteralName host.name) :
    host.address ≠ "" := by
  intro empty
  unfold HostLiteral.address at empty
  cases isName with
  | host named =>
      split at empty
      · rename_i opened
        obtain ⟨rest, spelled⟩ := List.head?_eq_some_iff.mp (beq_iff_eq.mp opened)
        exact noBracket_of_isHostName named rest spelled
      · rw [empty] at named
        exact absurd named (by decide)
  | bracketed address spelled enclosed ipv6 =>
      have opened : host.isIpv6 = true := by simp [HostLiteral.isIpv6, spelled]
      have inner : host.name.toList.tail.dropLast = address := by
        rw [spelled, List.cons_append, List.tail_cons, List.dropLast_concat]
      rw [if_pos opened, inner] at empty
      have nothing : address = [] := by
        rw [← String.toList_ofList (l := address), empty]
        rfl
      rw [nothing] at ipv6
      exact absurd ipv6 (by decide)

theorem unbracket_ne_empty {value : String} (filled : value ≠ "") : (unbracket value).1 ≠ "" := by
  unfold unbracket
  cases parsed : HostLiteral.read value with
  | error failure => exact filled
  | ok host =>
      have address := address_ne_empty (HostLiteral.isLiteralName_of_read parsed)
      cases isPort : host.port with
      | none =>
          simp only [isPort]
          exact address
      | some port =>
          simp only [isPort]
          intro empty
          have letters := congrArg String.toList empty
          rw [String.toList_append, String.toList_append] at letters
          have front := (List.append_eq_nil_iff.mp (List.append_eq_nil_iff.mp letters).1).1
          exact address (String.toList_eq_nil_iff.mp front)

/-- An address between brackets, with or without a port, is read without the brackets. -/
theorem unbracket_enclosed {value : String} {address : List Char} {port : Option (List Char)}
    (spelled : value.toList = '[' :: (address ++ ']' :: portTail port))
    (ipv6 : isIpv6 address = true) (enclosed : ∀ char ∈ address, (char == ']') = false)
    (checked : ∀ text, port = some text → isPortText text = true) :
    (unbracket value).1 = String.ofList (address ++ portTail port) := by
  have parsed := HostLiteral.read_enclosed spelled enclosed ipv6
  have shown : ∀ port : Option String,
      (⟨String.ofList ('[' :: address ++ [']']), port⟩ : HostLiteral).address =
        String.ofList address := by
    intro port
    simp [HostLiteral.address, HostLiteral.isIpv6, String.toList_ofList]
  cases port with
  | none =>
      simp only [unbracket, parsed, HostLiteral.withPort, shown]
      rw [portTail, Option.map_none, Option.getD_none, List.append_nil]
  | some text =>
      simp only [unbracket, parsed, HostLiteral.withPort, checked text rfl, if_true, shown]
      apply String.toList_inj.mp
      simp only [String.toList_append, String.toList_ofList, List.append_assoc]
      rfl

theorem unbracket_ported {value : String} {address last : List Char}
    (spelled : value.toList = address ++ ':' :: last) (ipv6 : isIpv6 address = true)
    (enclosed : ∀ char ∈ address, (char == ']') = false) (checked : isPortText last = true) :
    (unbracket ("[" ++ String.ofList address ++ "]:" ++ String.ofList last)).1 = value := by
  have written : ("[" ++ String.ofList address ++ "]:" ++ String.ofList last).toList =
      '[' :: (address ++ ']' :: portTail (some last)) := by
    simp only [String.toList_append, String.toList_ofList, List.append_assoc]
    rfl
  have back : String.ofList (address ++ portTail (some last)) = value := by
    apply String.toList_inj.mp
    rw [String.toList_ofList, spelled]
    rfl
  rw [unbracket_enclosed written ipv6 enclosed fun text same => (Option.some.inj same) ▸ checked,
    back]

theorem unbracket_whole {value : String} (ipv6 : isIpv6 value.toList = true)
    (enclosed : ∀ char ∈ value.toList, (char == ']') = false) :
    (unbracket ("[" ++ value ++ "]")).1 = value := by
  have written : ("[" ++ value ++ "]").toList = '[' :: (value.toList ++ ']' :: portTail none) := by
    simp only [String.toList_append, List.append_assoc]
    rfl
  rw [unbracket_enclosed written ipv6 enclosed (by simp)]
  simp [portTail]

/-- A value that has one way to be taken for an address and a port comes back from its brackets. -/
theorem unbracket_bracket_of_split {value : String} {address last : List Char}
    (zoneless : '%' ∉ value.toList) (spelled : value.toList = address ++ ':' :: last)
    (noColon : ∀ char ∈ last, (char == ':') = false)
    (numeric : last ≠ [] → (∀ char ∈ last, isDigitLike char = true) → isPortText last = true)
    (other : isIpv6 value.toList = false → isIpv6 address = true ∧ isPortText last = true) :
    (unbracket (bracket value)).1 = value := by
  have inFront : '%' ∉ address := by
    rw [spelled] at zoneless
    exact fun member => zoneless (List.mem_append_left _ member)
  have enclosed : isIpv6 address = true → ∀ char ∈ address, (char == ']') = false :=
    fun ipv6 => IsPlainIpv6.enclosed ⟨ipv6, inFront⟩
  unfold bracket
  simp only [splitAtLastColon_eq spelled noColon]
  split
  · rename_i numbered
    simp only [Bool.and_eq_true, Bool.not_eq_true', String.toList_ofList, List.all_eq_true,
      isIpv6Text] at numbered
    have filled : last ≠ [] := by
      intro empty
      rw [empty] at numbered
      exact absurd numbered.1.1 (by decide)
    exact unbracket_ported spelled numbered.2 (enclosed numbered.2) (numeric filled numbered.1.2)
  · split
    · rename_i whole
      exact unbracket_whole whole (IsPlainIpv6.enclosed ⟨whole, zoneless⟩)
    · rename_i whole
      obtain ⟨ipv6, checked⟩ := other (by simpa [isIpv6Text] using whole)
      exact unbracket_ported spelled ipv6 (enclosed ipv6) checked

/-- An IPv6 node comes back from its brackets, wherever its address is taken to end. -/
theorem unbracket_bracket {value : String} {address : List Char} {port : Option (List Char)}
    (node : IsNode value) (spelled : value.toList = address ++ portTail port)
    (plain : IsPlainIpv6 address)
    (checked : ∀ text, port = some text → isPortText text = true) :
    (unbracket (bracket value)).1 = value := by
  have zoneless : '%' ∉ value.toList := fun member => node.ne_of_mem member (by decide) rfl
  cases port with
  | some text =>
      have noColon := noColon_of_isPortText (checked text rfl)
      exact unbracket_bracket_of_split zoneless spelled noColon (fun _ _ => checked text rfl)
        fun _ => ⟨plain.ipv6, checked text rfl⟩
  | none =>
      have alone : value.toList = address := by
        rw [spelled]
        exact List.append_nil address
      have colon : ':' ∈ address := by
        have several := plain.two_le_count_colon
        exact List.count_pos_iff.mp (by omega)
      obtain ⟨front, last, split, noColon⟩ := exists_last_colon colon
      refine unbracket_bracket_of_split zoneless (alone.trans split) noColon ?_ ?_
      · intro filled digits
        exact isPortText_of_isPortNumeral
          ((split ▸ plain).isPortNumeral_of_append noColon filled digits)
      · intro refused
        rw [alone, plain.ipv6] at refused
        exact absurd refused (by decide)

/-! ### Quotes -/

/-- A node as it stands in the header, without its quotes. -/
def spellNode (value : String) : String :=
  if value.toList.head? == some '[' then value
  else if value.toList.count ':' < 2 then value
  else bracket value

/-- A node is written as it is spelled, or between quotes. -/
theorem quoteNode_eq (value : String) :
    quoteNode value = spellNode value ∨ quoteNode value = "\"" ++ spellNode value ++ "\"" := by
  unfold quoteNode spellNode
  split
  · exact Or.inr rfl
  · split
    · exact Or.inl rfl
    · exact Or.inr rfl

/-- A text without its square brackets. -/
def withoutBrackets (text : String) : String :=
  String.ofList (text.toList.filter fun char => char != '[' && char != ']')

theorem withoutBrackets_of_isBracketed {value text : String} (bracketed : IsBracketed value text) :
    withoutBrackets text = withoutBrackets value := by
  cases bracketed with
  | whole =>
      simp only [withoutBrackets, String.toList_append, List.filter_append]
      congr 1
      show [] ++ _ ++ [] = _
      rw [List.nil_append, List.append_nil]
  | port address last split =>
      simp only [withoutBrackets, split, String.toList_append, List.filter_append]
      congr 1

theorem cases_of_spellNode (value : String) :
    spellNode value = value ∨
      2 ≤ value.toList.count ':' ∧ IsBracketed value (spellNode value) := by
  unfold spellNode
  split
  · exact Or.inl rfl
  · split
    · exact Or.inl rfl
    · rename_i several
      have colon : ':' ∈ value.toList := List.count_pos_iff.mp (by omega)
      exact Or.inr ⟨by omega, isBracketed_bracket colon⟩

/-- Brackets are all that a spelling adds to a value. -/
theorem withoutBrackets_spellNode (value : String) :
    withoutBrackets (spellNode value) = withoutBrackets value := by
  rcases cases_of_spellNode value with same | ⟨-, bracketed⟩
  · rw [same]
  · exact withoutBrackets_of_isBracketed bracketed

theorem mem_spellNode {value : String} {char : Char} (member : char ∈ (spellNode value).toList) :
    char ∈ value.toList ∨ char = '[' ∨ char = ']' := by
  by_cases bracket : char = '[' ∨ char = ']'
  · exact Or.inr bracket
  · have kept : char ∈ (withoutBrackets (spellNode value)).toList := by
      rw [withoutBrackets, String.toList_ofList, List.mem_filter]
      simpa [not_or] using And.intro member (not_or.mp bracket)
    rw [withoutBrackets_spellNode, withoutBrackets, String.toList_ofList] at kept
    exact Or.inl (List.mem_filter.mp kept).1

theorem head_of_isBracketed {value text : String} (bracketed : IsBracketed value text) :
    text.toList.head? = some '[' := by
  cases bracketed with
  | whole =>
      simp only [String.toList_append]
      rfl
  | port address last split =>
      simp only [String.toList_append]
      rfl

theorem spellNode_ne_empty {value : String} (filled : value ≠ "") : spellNode value ≠ "" := by
  rcases cases_of_spellNode value with same | ⟨-, bracketed⟩
  · rw [same]
    exact filled
  · intro empty
    have head := head_of_isBracketed bracketed
    rw [empty] at head
    exact nomatch head

/-- A text withholds nothing unless it begins with a low line or the letter of `unknown`. -/
theorem isWithheld_of_head {text : String} {first : Char} (head : text.toList.head? = some first)
    (ascii : first.toNat < 0x80) (other : first ∉ ['_', 'u', 'U']) : isWithheld text = false := by
  obtain ⟨rest, spelled⟩ := List.head?_eq_some_iff.mp head
  have notDotted : ¬ (first.toNat == 0x130) = true := by
    rw [beq_iff_eq]
    omega
  have notSigma : ¬ (first.toNat == 0x3A3) = true := by
    rw [beq_iff_eq]
    omega
  have lowered : (lower text).toList.head? = some (Char.ofNat (lowerCode first.toNat)) := by
    rw [lower, String.toList_ofList, spelled, lowerFrom, if_neg notDotted, if_neg notSigma]
    rfl
  have letters : ∀ code < 0x80, Char.ofNat (lowerCode code) = 'u' →
      Char.ofNat code ∈ ['_', 'u', 'U'] := by decide
  have different : lower text ≠ "unknown" := by
    intro same
    rw [same] at lowered
    have letter := letters first.toNat ascii (Option.some.inj lowered).symm
    rw [Char.ofNat_toNat] at letter
    exact other letter
  have lowLine : first ≠ '_' := fun same => other (same ▸ List.mem_cons_self)
  simp [isWithheld, head, different, lowLine]

/-- An address of digits withholds nothing. -/
theorem isWithheld_of_digit {text : String} {first : Char} (head : text.toList.head? = some first)
    (isFirst : first = ':' ∨ first = '.' ∨ isHexDigit first = true) : isWithheld text = false := by
  rcases isFirst with colon | stop | digit
  · exact isWithheld_of_head head (colon ▸ by decide) (colon ▸ by decide)
  · exact isWithheld_of_head head (stop ▸ by decide) (stop ▸ by decide)
  · refine isWithheld_of_head head (toNat_lt_of_isHexDigit digit) fun letter => ?_
    have letters : ['_', 'u', 'U'].all (fun char => !isHexDigit char) = true := by decide
    have stranger := List.all_eq_true.mp letters first letter
    rw [digit] at stranger
    exact absurd stranger (by decide)

theorem isWithheld_spellNode {value : String} (given : isWithheld value = false) :
    isWithheld (spellNode value) = false := by
  rcases cases_of_spellNode value with same | ⟨-, bracketed⟩
  · rw [same]
    exact given
  · exact isWithheld_of_head (head_of_isBracketed bracketed) (by decide) (by decide)

namespace IsNode

variable {value : String}

theorem withoutBrackets_eq (node : IsNode value) : withoutBrackets value = value := by
  have kept : ∀ char ∈ value.toList, (char != '[' && char != ']') = true := by
    intro char member
    have opening : char ≠ '[' := node.ne_of_mem member (by decide)
    have closing : char ≠ ']' := node.ne_of_mem member (by decide)
    simp [opening, closing]
  rw [withoutBrackets, List.filter_eq_self.mpr kept, String.ofList_toList]

theorem not_opened (node : IsNode value) : ¬ (value.toList.head? == some '[') = true := by
  intro opened
  rw [beq_iff_eq] at opened
  exact node.ne_of_mem (List.mem_of_head? opened) (by decide) rfl

theorem ne_empty (node : IsNode value) : value ≠ "" := by
  intro empty
  cases node with
  | named name port spelled host checked =>
      rw [empty] at spelled
      exact ne_nil_of_isHostName (isHostName_of_or host) (List.append_eq_nil_iff.mp spelled.symm).1
  | ipv6 address port spelled plain checked =>
      have several := plain.two_le_count_colon
      rw [empty] at spelled
      rw [(List.append_eq_nil_iff.mp spelled.symm).1] at several
      exact absurd several (by decide)

/-- Next to a name there is no colon but that of its port. -/
theorem count_colon_named {name : List Char} {port : Option (List Char)}
    (host : isHostName name = true) (checked : ∀ text, port = some text → isPortText text = true) :
    (name ++ portTail port).count ':' < 2 := by
  have inName : name.count ':' = 0 := by
    rw [List.count_eq_zero]
    intro member
    exact absurd (noColon_of_isHostName host ':' member) (by decide)
  have inPort : (portTail port).count ':' < 2 := by
    cases port with
    | none => decide
    | some text =>
        have absent : text.count ':' = 0 := by
          rw [List.count_eq_zero]
          intro member
          exact absurd (noColon_of_isPortText (checked text rfl) ':' member) (by decide)
        show (':' :: text).count ':' < 2
        rw [List.count_cons_self, absent]
        decide
  rw [List.count_append, inName]
  omega

/-- A node that was spelled is the node again once it is read. -/
theorem unbracket_spellNode (node : IsNode value) :
    (if (spellNode value).toList.head? == some '[' then unbracket (spellNode value)
      else (spellNode value, [])).1 = value := by
  have opened := node.not_opened
  cases node with
  | named name port spelled host checked =>
      have few : value.toList.count ':' < 2 :=
        spelled ▸ count_colon_named (isHostName_of_or host) checked
      have same : spellNode value = value := by rw [spellNode, if_neg opened, if_pos few]
      rw [same, if_neg opened]
  | ipv6 address port spelled plain checked =>
      have several : ¬ value.toList.count ':' < 2 := by
        have inAddress := plain.two_le_count_colon
        rw [spelled, List.count_append]
        omega
      have same : spellNode value = bracket value := by
        rw [spellNode, if_neg opened, if_neg several]
      have bracketed : ((bracket value).toList.head? == some '[') = true := by
        have colon : ':' ∈ value.toList := List.count_pos_iff.mp (by omega)
        rw [head_of_isBracketed (isBracketed_bracket colon)]
        decide
      rw [same, if_pos bracketed]
      exact unbracket_bracket (.ipv6 address port spelled plain checked) spelled plain checked

end IsNode

/-! ### Addresses on their own -/

/-- A text that can stand in a chain for who sent it: a host name that withholds nothing or an IP
address, without a port or a zone. -/
inductive IsBareAddress (address : String) : Prop where
  | named (host : isHostName address.toList = true) (given : lower address ≠ "unknown")
  | ipv4 (dotted : isIpv4 address.toList = true)
  | ipv6 (plain : IsPlainIpv6 address.toList)

namespace IsBareAddress

variable {address : String}

theorem isNode (bare : IsBareAddress address) : IsNode address := by
  have alone : address.toList = address.toList ++ portTail none := (List.append_nil _).symm
  cases bare with
  | named host given => exact .named address.toList none alone (Or.inl host) (by simp)
  | ipv4 dotted => exact .named address.toList none alone (Or.inr dotted) (by simp)
  | ipv6 plain => exact .ipv6 address.toList none alone plain (by simp)

theorem given (bare : IsBareAddress address) : isWithheld address = false := by
  cases bare with
  | named host given =>
      have lowLine := noLowLine_of_isHostName host
      simp [isWithheld, given, lowLine]
  | ipv4 dotted =>
      have filled := ne_nil_of_isHostName (isHostName_of_isIpv4 dotted)
      obtain ⟨first, rest, spelled⟩ := List.exists_cons_of_ne_nil filled
      have member : first ∈ address.toList := spelled ▸ List.mem_cons_self
      refine isWithheld_of_digit (by rw [spelled, List.head?_cons]) ?_
      rcases mem_of_isIpv4 dotted member with stop | digit
      · exact Or.inr (Or.inl stop)
      · exact Or.inr (Or.inr (isHexDigit_of_isAsciiDigit digit))
  | ipv6 plain =>
      obtain ⟨first, rest, spelled, isFirst⟩ := head_of_isIpv6 plain.ipv6
      exact isWithheld_of_digit (by rw [spelled, List.head?_cons]) isFirst

end IsBareAddress

end ForwardedClient.Forwarded
