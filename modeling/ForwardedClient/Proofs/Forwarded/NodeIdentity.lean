import ForwardedClient.Proofs.Address.SkippedGroups
import ForwardedClient.Proofs.Forwarded.AuditTrail
import ForwardedClient.Proofs.Forwarded.Hop

/-!
Contract: which IPv6 nodes keep their address and their port on the wire.

Owns: a header with one bracketed node, the map that is read from it, and the exact condition under
which the header that is written from this map is the same.

Does not own: nodes with a zone, and nodes that came without brackets.
-/

namespace ForwardedClient.Forwarded

open ForwardedClient.Address
open ForwardedClient.Text

/-- A standard header with one node, an IPv6 address between brackets with or without a port. -/
def nodeHeader (address : List Char) (port : Option (List Char)) : String :=
  "for=" ++ ("\"" ++ String.ofList ('[' :: (address ++ ']' :: portTail port)) ++ "\"")

/-- An address that skips groups, and ends in a group of decimal digits that is not the first one
after them. -/
structure EndsInPort (address before after last : List Char) : Prop where
  spelled : address = before ++ ':' :: ':' :: (after ++ ':' :: last)
  numeral : isPortNumeral last = true

section Node

variable {address : List Char}

/-- A node is recorded without its brackets. -/
theorem read_nodeHeader (plain : IsPlainIpv6 address) {port : Option (List Char)}
    (checked : ∀ text, port = some text → isPortText text = true) :
    (DirectiveMap.read [nodeHeader address port]).1 =
      ⟨[("for", [String.ofList (address ++ portTail port)])]⟩ := by
  let node := Node.ipv6 address port plain checked
  have clean : IsClean node.enclosed := node.isClean_enclosed
  have named := @isClean_of_isKnown "for" (by decide)
  have scanned : pairs (nodeHeader address port) = [("for", node.enclosed)] :=
    (yields_pair named.filled clean.filled named.plain clean.plain (Or.inr rfl)).alone
  have contributed : (normalize "for" node.enclosed).1 = some ("for", node.address) := by
    rw [normalize_of_isKnown (by decide) clean.filled, node.recorded_enclosed,
      if_pos node.counts_address]
  rw [DirectiveMap.read, List.flatMap_singleton, scanned, List.foldl_cons, List.foldl_nil,
    DirectiveMap.addPair_of_normalize contributed]
  rfl

/-- A node that is written from a map has the brackets that its recorded text is given. -/
theorem write_read_nodeHeader (plain : IsPlainIpv6 address) {port : Option (List Char)}
    (checked : ∀ text, port = some text → isPortText text = true) :
    (DirectiveMap.read [nodeHeader address port]).1.write =
      "for=" ++ ("\"" ++ bracket (String.ofList (address ++ portTail port)) ++ "\"") := by
  obtain ⟨first, rest, letters, isFirst⟩ := head_of_isIpv6 plain.ipv6
  have unopened : ¬ ((String.ofList (address ++ portTail port)).toList.head? == some '[') = true := by
    rw [String.toList_ofList, letters, List.cons_append, List.head?_cons, beq_iff_eq,
      Option.some.injEq]
    rintro rfl
    revert isFirst
    decide
  have several : ¬ (String.ofList (address ++ portTail port)).toList.count ':' < 2 := by
    have colons := plain.two_le_count_colon
    rw [String.toList_ofList, List.count_append]
    omega
  have quoted : writePair "for" (String.ofList (address ++ portTail port)) =
      "for=" ++ ("\"" ++ bracket (String.ofList (address ++ portTail port)) ++ "\"") := by
    unfold writePair
    rw [if_pos (by decide), quoteNode, if_neg unopened, if_neg several]
    rfl
  rw [read_nodeHeader plain checked, DirectiveMap.write, ← quoted]
  simp only [List.map_cons, List.map_nil, String.intercalate_singleton]

/-- A numeral after an address is bracketed as its port. -/
theorem bracket_of_numeral {front port : List Char} (ipv6 : isIpv6 front = true)
    (numeral : isPortNumeral port = true) :
    bracket (String.ofList (front ++ ':' :: port)) =
      String.ofList ('[' :: (front ++ ']' :: portTail (some port))) := by
  obtain ⟨filled, digits⟩ := isDigitLike_of_isPortNumeral numeral
  rw [bracket_of_digits String.toList_ofList ipv6 filled digits]
  apply String.toList_inj.mp
  simp only [String.toList_append, String.toList_ofList, List.append_assoc]
  rfl

/-- The end of such an address is not its own: it is an address without it, too. -/
theorem EndsInPort.isIpv6 {before after last : List Char} (plain : IsPlainIpv6 address)
    (ends : EndsInPort address before after last) :
    isIpv6 (before ++ ':' :: ':' :: after) = true := by
  obtain ⟨filled, digits⟩ := isDigitLike_of_isPortNumeral ends.numeral
  have noColon := noColon_of_isDigitLike digits
  have spelled : address = (before ++ ':' :: ':' :: after) ++ ':' :: last := by
    rw [ends.spelled, List.append_assoc]
    rfl
  have group := (spelled ▸ plain).isGroup_of_append noColon filled digits
  exact ((spelled ▸ plain).isIpv6_iff_of_append noColon group).mpr ⟨before, after, rfl⟩

/-- An address whose end is taken for a port is bracketed without it. -/
theorem bracket_of_endsInPort {before after last : List Char} (plain : IsPlainIpv6 address)
    (ends : EndsInPort address before after last) :
    bracket (String.ofList address) =
      String.ofList ('[' :: ((before ++ ':' :: ':' :: after) ++ ']' :: portTail (some last))) := by
  rw [← bracket_of_numeral (ends.isIpv6 plain) ends.numeral, ends.spelled, List.append_assoc]
  rfl

/-- Every other address is bracketed whole. -/
theorem bracket_of_unsplit (plain : IsPlainIpv6 address)
    (unsplit : ¬ ∃ before after last, EndsInPort address before after last) :
    bracket (String.ofList address) = String.ofList ('[' :: (address ++ ']' :: portTail none)) := by
  have several := plain.two_le_count_colon
  obtain ⟨front, last, spelled, noColon⟩ :=
    exists_last_colon (List.count_pos_iff.mp (by omega : 0 < address.count ':'))
  have unnumbered : ¬ (!(String.ofList last).isEmpty && (String.ofList last).toList.all isDigitLike &&
      isIpv6Text (String.ofList front)) = true := by
    intro numbered
    simp only [Bool.and_eq_true, Bool.not_eq_true', String.toList_ofList, List.all_eq_true,
      isIpv6Text] at numbered
    obtain ⟨⟨notEmpty, digits⟩, ipv6⟩ := numbered
    have filled : last ≠ [] := by
      rintro rfl
      exact absurd notEmpty (by decide)
    have group := (spelled ▸ plain).isGroup_of_append noColon filled digits
    obtain ⟨before, after, skips⟩ := ((spelled ▸ plain).isIpv6_iff_of_append noColon group).mp ipv6
    refine unsplit ⟨before, after, last, ?_,
      (spelled ▸ plain).isPortNumeral_of_append noColon filled digits⟩
    rw [spelled, skips, List.append_assoc]
    rfl
  have whole : isIpv6Text (String.ofList address) = true := by
    rw [isIpv6Text, String.toList_ofList]
    exact plain.ipv6
  unfold bracket
  simp only [splitAtLastColon_eq (String.toList_ofList.trans spelled) noColon]
  rw [if_neg unnumbered, if_pos whole]
  apply String.toList_inj.mp
  simp only [String.toList_append, String.toList_ofList, List.append_assoc]
  rfl

theorem enclosed_eq : "[" ++ String.ofList address ++ "]" =
    String.ofList ('[' :: (address ++ ']' :: portTail none)) := by
  apply String.toList_inj.mp
  simp only [String.toList_append, String.toList_ofList, List.append_assoc]
  rfl

/-- An address is bracketed whole exactly if its end is not taken for a port. -/
theorem bracket_eq_iff (plain : IsPlainIpv6 address) :
    bracket (String.ofList address) = "[" ++ String.ofList address ++ "]" ↔
      ¬ ∃ before after last, EndsInPort address before after last := by
  rw [enclosed_eq]
  constructor
  · rintro whole ⟨before, after, last, ends⟩
    rw [bracket_of_endsInPort plain ends, String.ofList_inj, ends.spelled] at whole
    simp [portTail] at whole
  · exact bracket_of_unsplit plain

/-- A node with a port comes back from its header as it was written. A bare address comes back
exactly if its end is not taken for a port; else its last group comes back as its port. -/
theorem write_read_ipv6_node (plain : IsPlainIpv6 address) :
    (∀ port, isPortNumeral port = true →
      (DirectiveMap.read [nodeHeader address (some port)]).1.write =
        nodeHeader address (some port)) ∧
    (∀ before after last, EndsInPort address before after last →
      (DirectiveMap.read [nodeHeader address none]).1.write =
        nodeHeader (before ++ ':' :: ':' :: after) (some last)) ∧
    ((DirectiveMap.read [nodeHeader address none]).1.write = nodeHeader address none ↔
      ¬ ∃ before after last, EndsInPort address before after last) ∧
    (bracket (String.ofList address) = "[" ++ String.ofList address ++ "]" ↔
      ¬ ∃ before after last, EndsInPort address before after last) := by
  have bare : (DirectiveMap.read [nodeHeader address none]).1.write =
      "for=" ++ ("\"" ++ bracket (String.ofList address) ++ "\"") := by
    rw [write_read_nodeHeader plain (by simp)]
    simp only [portTail, Option.map_none, Option.getD_none, List.append_nil]
  refine ⟨fun port numeral => ?_, fun before after last ends => ?_, ?_, bracket_eq_iff plain⟩
  · have checked : ∀ text, some port = some text → isPortText text = true := by
      rintro _ ⟨⟩
      exact isPortText_of_isPortNumeral numeral
    rw [write_read_nodeHeader plain checked, nodeHeader,
      ← bracket_of_numeral plain.ipv6 numeral]
    rfl
  · rw [bare, bracket_of_endsInPort plain ends]
    rfl
  · rw [bare, ← bracket_eq_iff plain, enclosed_eq, nodeHeader]
    simp only [String.append_right_inj, String.append_left_inj]

/-- A port that was written stays one, and a last group becomes one. -/
theorem write_read_documentation_node :
    IsPlainIpv6 "2001:db8::1".toList ∧
      (DirectiveMap.read ["for=\"[2001:db8::1]:8080\""]).1.write =
        "for=\"[2001:db8::1]:8080\"" ∧
      EndsInPort "2001:db8::1:2".toList "2001:db8".toList "1".toList "2".toList ∧
      (DirectiveMap.read ["for=\"[2001:db8::1:2]\""]).1.write = "for=\"[2001:db8::1]:2\"" := by
  have short : IsPlainIpv6 "2001:db8::1".toList := ⟨by decide, by decide⟩
  have long : IsPlainIpv6 "2001:db8::1:2".toList := ⟨by decide, by decide⟩
  have ends : EndsInPort "2001:db8::1:2".toList "2001:db8".toList "1".toList "2".toList :=
    ⟨by decide, by decide⟩
  exact ⟨short, (write_read_ipv6_node short).1 "8080".toList (by decide), ends,
    (write_read_ipv6_node long).2.1 _ _ _ ends⟩

/-- A bare address does not come back, and is not bracketed whole. -/
theorem last_group_becomes_port :
    IsPlainIpv6 "2001:db8::1:2".toList ∧
      nodeHeader "2001:db8::1:2".toList none = "for=\"[2001:db8::1:2]\"" ∧
      (DirectiveMap.read ["for=\"[2001:db8::1:2]\""]).1.write ≠ "for=\"[2001:db8::1:2]\"" ∧
      bracket "2001:db8::1:2" ≠ "[2001:db8::1:2]" := by
  exact ⟨⟨by decide, by decide⟩, by decide, by decide +kernel, by decide +kernel⟩

end Node

end ForwardedClient.Forwarded
