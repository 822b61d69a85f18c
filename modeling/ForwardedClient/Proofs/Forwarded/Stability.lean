import ForwardedClient.Proofs.Forwarded.Respelling

/-!
Contract: a header that was read and written is read and written the same again.

Owns: the entries and the text of a map after one more reading, for headers of any content, and
the maps that come back unchanged.

Does not own: what the first reading makes of a header.
-/

namespace ForwardedClient.Forwarded

open ForwardedClient.Address
open ForwardedClient.Text

namespace DirectiveMap

/-! ### Headers of any content -/

variable {map : DirectiveMap}

/-- A map that was written and read has the text that it had. -/
theorem write_read_write_of_settled (wellFormed : map.IsWellFormed) (settled : map.IsSettled) :
    (read [map.write]).1.write = map.write := by
  rw [write, entries_read_write wellFormed settled, List.map_map, write]
  refine congrArg (String.intercalate ";") (List.map_congr_left fun entry member => ?_)
  show String.intercalate ", " ((entry.2.map (again entry.1)).map (writePair entry.1)) = _
  rw [List.map_map]
  exact congrArg (String.intercalate ", ") (List.map_congr_left fun value inside =>
    writePair_again (wellFormed.named entry member) (settled entry member value inside))

/-- A map that was read from any values is read again from its own text with the same directives
in the same order and as many values of each, and it has the same text then. -/
theorem write_read_write (values : List String) :
    ((read [(read values).1.write]).1.entries.map (·.1) = (read values).1.entries.map (·.1)) ∧
      (∀ name, ((read [(read values).1.write]).1.values name).length =
        ((read values).1.values name).length) ∧
      (read [(read values).1.write]).1.write = (read values).1.write := by
  have wellFormed := isWellFormed_read values
  have settled := isSettled_read values
  refine ⟨?names, fun name => ?counts, write_read_write_of_settled wellFormed settled⟩
  case names =>
    rw [entries_read_write wellFormed settled, List.map_map]
    rfl
  case counts =>
    rw [values_read_write_of_settled wellFormed settled, List.length_map]

example :
    (read [(read ["For=\"[fe80::1%]a]:80\";BY=a:b:c", "for=::1]:5:6"]).1.write]).1.write =
      "for=\"[fe80::1%]a]:80\", for=\"[::1]:5]:6\";by=\"[a:b]:c\"" := by
  decide +kernel

end DirectiveMap

/-! ### Maps in standard form -/

/-- A value that comes back from a header as it was: a node, a literal without a zone, each but
`unknown`, or a protocol. -/
inductive IsStandard : String → String → Prop where
  | address {value : String} (node : IsNode value) (given : lower value ≠ "unknown") :
      IsStandard "for" value
  | host {name value : String} {literal : HostLiteral} (named : name = "by" ∨ name = "host")
      (parsed : HostLiteral.read value = .ok literal) (zoneless : '%' ∉ literal.address.toList)
      (given : lower value ≠ "unknown") : IsStandard name value
  | protocol {value : String} (supported : isProtocol value = true) : IsStandard "proto" value

section Values

variable {value : String}

/-- A node does not begin with a low line. -/
theorem IsNode.noLowLine (node : IsNode value) : value.toList.head? ≠ some '_' := by
  intro lowLine
  cases node with
  | named name port spelled host checked =>
      have named := isHostName_of_or host
      obtain ⟨first, rest, letters⟩ := List.exists_cons_of_ne_nil (ne_nil_of_isHostName named)
      rw [spelled, letters, List.cons_append, List.head?_cons, Option.some.injEq] at lowLine
      exact noLowLine_of_isHostName named (by rw [letters, lowLine, List.head?_cons])
  | ipv6 address port spelled plain checked =>
      obtain ⟨first, rest, letters, isFirst⟩ := head_of_isIpv6 plain.ipv6
      rw [spelled, letters, List.cons_append, List.head?_cons, Option.some.injEq] at lowLine
      rcases isFirst with colon | stop | digit
      · exact absurd (lowLine.symm.trans colon) (by decide)
      · exact absurd (lowLine.symm.trans stop) (by decide)
      · rw [lowLine] at digit
        exact absurd digit (by decide)

/-- What a literal without a zone is: a node, or an address between brackets with a port. -/
theorem cases_of_zoneless {literal : HostLiteral} (parsed : HostLiteral.read value = .ok literal)
    (zoneless : '%' ∉ literal.address.toList) :
    IsNode value ∧ value.toList.count ':' < 2 ∨
      ∃ (address : List Char) (port : Option (List Char)),
        value.toList = '[' :: (address ++ ']' :: portTail port) ∧ IsPlainIpv6 address ∧
          ∀ checked, port = some checked → isPortText checked = true := by
  obtain ⟨name, port, same, spelled, isName, checked⟩ := HostLiteral.cases_of_read parsed
  cases isName with
  | host named =>
      rw [String.toList_ofList] at named
      refine Or.inl ⟨.named name port spelled (Or.inl named) checked, ?_⟩
      rw [spelled]
      exact IsNode.count_colon_named named checked
  | bracketed address written enclosed ipv6 =>
      have shown : literal.address.toList = address := by
        simp [same, HostLiteral.address, HostLiteral.isIpv6, written]
      rw [String.toList_ofList] at written
      refine Or.inr ⟨address, port, ?_, ⟨ipv6, shown ▸ zoneless⟩, checked⟩
      rw [spelled, written, List.cons_append, List.cons_append, List.append_assoc]
      rfl

end Values

namespace IsStandard

variable {name value : String}

theorem isAccepted (standard : IsStandard name value) : IsAccepted name value := by
  cases standard with
  | address node given =>
      refine node.isAccepted (by decide) (by decide) ?_
      simp [isWithheld, given, node.noLowLine]
  | host named parsed zoneless given =>
      have known : isKnown name = true ∧ hasAddress name = true := by
        rcases named with same | same <;> subst same <;> decide
      rcases cases_of_zoneless parsed zoneless with
        ⟨node, -⟩ | ⟨address, port, spelled, plain, checked⟩
      · refine node.isAccepted known.1 known.2 ?_
        simp [isWithheld, given, node.noLowLine]
      · have head : value.toList.head? = some '[' := by rw [spelled, List.head?_cons]
        have filled : value ≠ "" := by
          intro empty
          rw [empty] at head
          cases head
        refine ⟨known.1, ⟨filled, fun char member => ?_⟩,
          fun _ => isWithheld_of_head head (by decide) (by decide),
          fun unaddressed => Bool.noConfusion (known.2.symm.trans unaddressed)⟩
        rw [spelled, List.mem_cons, List.mem_append, List.mem_cons] at member
        rcases member with opening | inAddress | closing | inPort
        · exact opening ▸ by decide
        · rcases isTokenChar_of_isPlainIpv6 plain inAddress with colon | token
          · exact colon ▸ by decide
          · exact isPlain_of_isTokenChar token
        · exact closing ▸ by decide
        · rcases mem_portTail checked inPort with colon | token
          · exact colon ▸ by decide
          · exact isPlain_of_isTokenChar token
  | protocol supported =>
      have filled : value ≠ "" := by
        intro empty
        rw [empty] at supported
        exact absurd supported (by decide)
      exact ⟨by decide, ⟨filled, fun _ => isPlain_of_isProtocol supported⟩,
        fun addressed => absurd addressed (by decide), fun _ => supported⟩

theorem again_eq (standard : IsStandard name value) : again name value = value := by
  cases standard with
  | address node given => exact node.again_eq
  | host named parsed zoneless given =>
      have known : name ≠ "for" ∧ hasAddress name = true := by
        rcases named with same | same <;> subst same <;> decide
      rw [again, recorded_of_kept fun opened => known.1 opened.1, spell_of_hasAddress known.2]
      rcases cases_of_zoneless parsed zoneless with ⟨node, few⟩ | ⟨address, port, spelled, -, -⟩
      · rw [spellNode, if_neg node.not_opened, if_pos few]
      · exact spellNode_of_opened (by rw [spelled, List.head?_cons])
  | protocol supported =>
      have kept : spell "proto" = id := spell_of_not_hasAddress (by decide)
      rw [again, recorded_of_kept (by simp), kept]
      rfl

theorem recorded_eq (standard : IsStandard name value) : recorded name value = value := by
  cases standard with
  | address node given => exact node.recorded_eq _
  | host named parsed zoneless given =>
      have other : name ≠ "for" := by rcases named with same | same <;> subst same <;> decide
      exact recorded_of_kept fun opened => other opened.1
  | protocol supported => exact recorded_of_kept (by simp)

end IsStandard

namespace DirectiveMap

/-- A map of standard values with distinct names is read back from its text as it was, its names
and values in their order. -/
theorem read_write_of_isStandard (map : DirectiveMap) (distinct : (map.entries.map (·.1)).Nodup)
    (filled : ∀ entry ∈ map.entries, entry.2 ≠ [])
    (standard : ∀ entry ∈ map.entries, ∀ value ∈ entry.2, IsStandard entry.1 value) :
    (read [map.write]).1 = map := by
  have wellFormed : map.IsWellFormed := ⟨distinct, filled, fun entry member value inside =>
    (standard entry member value inside).isAccepted⟩
  have settled : map.IsSettled := fun entry member value inside =>
    (standard entry member value inside).recorded_eq
  have entries := entries_read_write wellFormed settled
  have kept : map.entries.map (fun entry => (entry.1, entry.2.map (again entry.1))) =
      map.entries := by
    refine (List.map_congr_left fun entry member => ?_).trans (List.map_id' _)
    have same : entry.2.map (again entry.1) = entry.2 :=
      (List.map_congr_left fun value inside => (standard entry member value inside).again_eq).trans
        (List.map_id' _)
    rw [same]
  rw [kept] at entries
  cases written : (read [map.write]).1 with
  | mk others =>
      rw [written] at entries
      cases map
      exact congrArg DirectiveMap.mk entries

/-- A map in which the end of an address can be taken for its port, and the other way round. -/
def mixedMap : DirectiveMap :=
  ⟨[("proto", ["HTTPS", "http"]),
    ("for", ["2001:db8::1:8080", "1:2:3:4:5:6:7:8", "192.0.2.60:_edge", "example.com:443"]),
    ("by", ["[2001:db8::2]:443"]),
    ("host", ["example.com"])]⟩

example : mixedMap.write =
    "proto=HTTPS, proto=http;" ++
    "for=\"[2001:db8::1]:8080\", for=\"[1:2:3:4:5:6:7:8]\", for=192.0.2.60:_edge, " ++
    "for=example.com:443;by=\"[2001:db8::2]:443\";host=example.com" := by
  decide +kernel

theorem isStandard_mixedMap :
    ∀ entry ∈ mixedMap.entries, ∀ value ∈ entry.2, IsStandard entry.1 value := by
  have skipped : IsNode "2001:db8::1:8080" :=
    .ipv6 "2001:db8::1".toList (some "8080".toList) (by decide)
      ⟨by decide +kernel, by decide⟩ (by decide)
  have full : IsNode "1:2:3:4:5:6:7:8" :=
    .ipv6 "1:2:3:4:5:6:7:8".toList none (by decide) ⟨by decide +kernel, by decide⟩ (by simp)
  have dotted : IsNode "192.0.2.60:_edge" :=
    .named "192.0.2.60".toList (some "_edge".toList) (by decide)
      (Or.inr (by decide +kernel)) (by decide)
  have named : IsNode "example.com:443" :=
    .named "example.com".toList (some "443".toList) (by decide)
      (Or.inl (by decide +kernel)) (by decide)
  have proxy : HostLiteral.read "[2001:db8::2]:443" = .ok ⟨"[2001:db8::2]", some "443"⟩ := by rfl
  have host : HostLiteral.read "example.com" = .ok ⟨"example.com", none⟩ := by rfl
  simp only [mixedMap, List.forall_mem_cons, List.not_mem_nil, false_implies, implies_true,
    and_true]
  exact ⟨⟨.protocol (by decide +kernel), .protocol (by decide +kernel)⟩,
    ⟨.address skipped (by decide +kernel), .address full (by decide +kernel),
      .address dotted (by decide +kernel), .address named (by decide +kernel)⟩,
    .host (Or.inl rfl) proxy (by decide) (by decide +kernel),
    .host (Or.inr rfl) host (by decide) (by decide +kernel)⟩

theorem read_write_mixedMap :
    (mixedMap.entries.map (·.1)).Nodup ∧ (∀ entry ∈ mixedMap.entries, entry.2 ≠ []) ∧
      (read [mixedMap.write]).1 = mixedMap := by
  have distinct : (mixedMap.entries.map (·.1)).Nodup := by decide
  have filled : ∀ entry ∈ mixedMap.entries, entry.2 ≠ [] := by decide
  exact ⟨distinct, filled, read_write_of_isStandard mixedMap distinct filled isStandard_mixedMap⟩

end DirectiveMap

end ForwardedClient.Forwarded
