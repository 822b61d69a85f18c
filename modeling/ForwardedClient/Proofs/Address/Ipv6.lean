import ForwardedClient.Address.Ipv6
import ForwardedClient.Proofs.Text.Pieces

/-!
Contract: what IP addresses are made of.

Owns: the characters of addresses, the colons of IPv6 addresses, and what may stand after the last
of them.

Does not own: what stands in a zone, which may be almost anything.
-/

namespace ForwardedClient.Address

open ForwardedClient.Text

variable {text : List Char} {char : Char}

/-! ### Digits -/

theorem isHexDigit_of_isAsciiDigit (digit : isAsciiDigit char = true) : isHexDigit char = true := by
  simp only [isAsciiDigit, Bool.and_eq_true, decide_eq_true_eq] at digit
  rw [isHexDigit, hexDigitValue?, if_pos digit]
  rfl

theorem toNat_lt_of_isHexDigit (digit : isHexDigit char = true) : char.toNat < 0x80 := by
  have bound : ∀ last : Char, char ≤ last → char.toNat ≤ last.toNat := fun _ below => below
  unfold isHexDigit hexDigitValue? at digit
  split at digit
  · rename_i decimal
    exact Nat.lt_of_le_of_lt (bound '9' decimal.2) (by decide)
  · split at digit
    · rename_i small
      exact Nat.lt_of_le_of_lt (bound 'f' small.2) (by decide)
    · split at digit
      · rename_i capital
        exact Nat.lt_of_le_of_lt (bound 'F' capital.2) (by decide)
      · exact nomatch digit

/-- Of the characters with the value of a digit only the ASCII digits stand in addresses. -/
theorem isAsciiDigit_of_isHexDigit (hex : isHexDigit char = true)
    (digitLike : isDigitLike char = true) : isAsciiDigit char = true := by
  rw [isDigitLike, if_pos (toNat_lt_of_isHexDigit hex)] at digitLike
  exact digitLike

/-! ### IPv4 -/

theorem isAsciiDigit_of_mem_octet {octet : List Char} (isOne : isOctet octet = true)
    (member : char ∈ octet) : isAsciiDigit char = true := by
  simp only [isOctet, Bool.and_eq_true, List.all_eq_true] at isOne
  exact isOne.1.1.1.2 char member

theorem mem_of_isIpv4 (dotted : isIpv4 text = true) (member : char ∈ text) :
    char = '.' ∨ isAsciiDigit char = true := by
  simp only [isIpv4, Bool.and_eq_true, List.all_eq_true] at dotted
  rcases mem_pieces_of_mem (· == '.') member with stop | ⟨octet, isPiece, here⟩
  · exact Or.inl (by simpa using stop)
  · exact Or.inr (isAsciiDigit_of_mem_octet (dotted.2 octet isPiece) here)

theorem dot_mem_of_isIpv4 (dotted : isIpv4 text = true) : '.' ∈ text := by
  simp only [isIpv4, Bool.and_eq_true, beq_iff_eq, length_pieces] at dotted
  have dots : 0 < text.countP (· == '.') := by omega
  obtain ⟨stop, member, isStop⟩ := List.countP_pos_iff.mp dots
  have same : stop = '.' := by simpa using isStop
  exact same ▸ member

/-! ### Groups -/

theorem isHexDigit_of_mem_group {group : List Char} (isOne : isGroup group = true)
    (member : char ∈ group) : isHexDigit char = true := by
  simp only [isGroup, Bool.and_eq_true, List.all_eq_true] at isOne
  exact isOne.2 char member

theorem mem_sideOfSkip {side : List (List Char)} {group : List Char} (member : group ∈ side) :
    group = [] ∨ group ∈ sideOfSkip side := by
  unfold sideOfSkip
  split
  · rename_i skipped
    rw [beq_iff_eq] at skipped
    rw [skipped, List.mem_singleton] at member
    exact Or.inl member
  · exact Or.inr member

theorem exists_ends {groups : List (List Char)} (several : 2 ≤ groups.length) :
    ∃ first inner last, groups = first :: (inner ++ [last]) := by
  cases groups with
  | nil => simp at several
  | cons first rest =>
      have filled : rest ≠ [] := by
        intro empty
        simp [empty] at several
      exact ⟨first, rest.dropLast, rest.getLast filled, by rw [List.dropLast_concat_getLast]⟩

/-- A group stands before the first empty one, is that one, or stands after it. -/
theorem cases_of_mem_inner {inner : List (List Char)} {group : List Char}
    (member : group ∈ inner) :
    group ∈ inner.takeWhile (· != []) ∨ group = [] ∨
      group ∈ (inner.dropWhile (· != [])).tail := by
  rw [← List.takeWhile_append_dropWhile (p := (· != [])) (l := inner)] at member
  rcases List.mem_append.mp member with early | late
  · exact Or.inl early
  · cases skipped : inner.dropWhile (· != []) with
    | nil =>
        rw [skipped] at late
        exact absurd late List.not_mem_nil
    | cons skip rest =>
        have empty : skip = [] := by
          have head := List.head_dropWhile_not (· != []) (l := inner) (by simp [skipped])
          simpa [skipped] using head
        rw [skipped] at late
        rcases List.mem_cons.mp late with isSkip | isLater
        · exact Or.inr (Or.inl (isSkip.trans empty))
        · exact Or.inr (Or.inr isLater)

/-- All groups of an address are groups of digits, but for empty ones where groups are skipped. -/
theorem cases_of_areGroups {groups : List (List Char)} (accepted : areGroups groups = true)
    (several : 2 ≤ groups.length) {group : List Char} (member : group ∈ groups) :
    group = [] ∨ isGroup group = true := by
  obtain ⟨first, inner, last, split⟩ := exists_ends several
  have middle : groups.tail.dropLast = inner := by rw [split, List.tail_cons, List.dropLast_concat]
  have front : groups.head?.toList = [first] := by rw [split]; rfl
  have back : groups.getLast?.toList = [last] := by
    rw [split, ← List.cons_append, List.getLast?_concat]
    rfl
  simp only [areGroups, middle, front, back] at accepted
  split at accepted
  · simp only [Bool.and_eq_true, List.all_eq_true] at accepted
    obtain ⟨⟨before, after⟩, -⟩ := accepted
    have ofBefore : group ∈ [first] ++ inner.takeWhile (· != []) →
        group = [] ∨ isGroup group = true :=
      fun inside => (mem_sideOfSkip inside).imp_right (before group)
    have ofAfter : group ∈ (inner.dropWhile (· != [])).tail ++ [last] →
        group = [] ∨ isGroup group = true :=
      fun inside => (mem_sideOfSkip inside).imp_right (after group)
    rw [split, List.mem_cons, List.mem_append, List.mem_singleton] at member
    rcases member with isFirst | isInner | isLast
    · exact ofBefore (by simp [isFirst])
    · rcases cases_of_mem_inner isInner with early | empty | late
      · exact ofBefore (List.mem_append_right _ early)
      · exact Or.inl empty
      · exact ofAfter (List.mem_append_left _ late)
    · exact ofAfter (by simp [isLast])
  · simp only [Bool.and_eq_true, List.all_eq_true] at accepted
    exact Or.inr (accepted.2 group member)

/-! ### Addresses without a zone -/

/-- An IPv6 address without a zone. -/
structure IsPlainIpv6 (text : List Char) : Prop where
  ipv6 : isIpv6 text = true
  zoneless : '%' ∉ text

namespace IsPlainIpv6

theorem isIpv6Plain (plain : IsPlainIpv6 text) : isIpv6Plain text = true := by
  have absent : ∀ char ∈ text, (char == '%') = false := by
    intro char member
    rw [beq_eq_false_iff_ne]
    exact fun same => plain.zoneless (same ▸ member)
  have accepted := plain.ipv6
  simp only [isIpv6, partitionAt_of_none (· == '%') text absent, Bool.and_eq_true] at accepted
  exact accepted.2

/-- What stands between the colons: nothing, a group of digits, or a dotted address. -/
theorem cases_of_mem_pieces (plain : IsPlainIpv6 text) {group : List Char}
    (member : group ∈ pieces (· == ':') text) :
    group = [] ∨ isGroup group = true ∨ isIpv4 group = true := by
  have accepted := plain.isIpv6Plain
  simp only [Address.isIpv6Plain, Bool.and_eq_true, decide_eq_true_eq] at accepted
  obtain ⟨several, grouped⟩ := accepted
  generalize pieces (· == ':') text = groups at member several grouped
  have undotted : withoutDottedTail groups = some groups →
      group = [] ∨ isGroup group = true ∨ isIpv4 group = true := by
    intro same
    rw [same] at grouped
    exact (cases_of_areGroups grouped (by omega) member).imp_right Or.inl
  cases ending : groups.getLast? with
  | none => exact undotted (by simp [withoutDottedTail, ending])
  | some tail =>
      by_cases dot : tail.contains '.' = true
      · by_cases dotted : isIpv4 tail = true
        · have replaced : withoutDottedTail groups =
              some (groups.dropLast ++ [['0'], ['0']]) := by
            simp only [withoutDottedTail, ending, dot, dotted, if_true]
          rw [replaced] at grouped
          obtain ⟨before, split⟩ := List.getLast?_eq_some_iff.mp ending
          rw [split, List.mem_append, List.mem_singleton] at member
          rcases member with inside | isTail
          · have kept : group ∈ groups.dropLast ++ [['0'], ['0']] := by
              rw [split, List.dropLast_concat]
              exact List.mem_append_left _ inside
            exact (cases_of_areGroups grouped (by simp) kept).imp_right Or.inl
          · exact Or.inr (Or.inr (isTail ▸ dotted))
        · have refused : withoutDottedTail groups = none := by
            simp only [withoutDottedTail, ending, dot, dotted, if_true, Bool.false_eq_true,
              if_false]
          rw [refused] at grouped
          exact absurd grouped (by decide)
      · exact undotted (by simp only [withoutDottedTail, ending, dot, Bool.false_eq_true, if_false])

theorem mem_cases (plain : IsPlainIpv6 text) (member : char ∈ text) :
    char = ':' ∨ char = '.' ∨ isHexDigit char = true := by
  rcases mem_pieces_of_mem (· == ':') member with colon | ⟨group, isPiece, here⟩
  · exact Or.inl (by simpa using colon)
  · rcases plain.cases_of_mem_pieces isPiece with empty | isOne | dotted
    · rw [empty] at here
      exact absurd here List.not_mem_nil
    · exact Or.inr (Or.inr (isHexDigit_of_mem_group isOne here))
    · exact Or.inr ((mem_of_isIpv4 dotted here).imp_right isHexDigit_of_isAsciiDigit)

theorem enclosed (plain : IsPlainIpv6 text) : ∀ char ∈ text, (char == ']') = false := by
  intro char member
  rw [beq_eq_false_iff_ne]
  intro same
  rcases plain.mem_cases member with colon | stop | digit
  · exact absurd (same.symm.trans colon) (by decide)
  · exact absurd (same.symm.trans stop) (by decide)
  · rw [same] at digit
    exact absurd digit (by decide)

theorem two_le_count_colon (plain : IsPlainIpv6 text) : 2 ≤ text.count ':' := by
  have accepted := plain.isIpv6Plain
  simp only [Address.isIpv6Plain, Bool.and_eq_true, decide_eq_true_eq, length_pieces] at accepted
  have enough : 2 ≤ text.countP (· == ':') := by omega
  exact enough

/-- Digits after the last colon of an address are a group, and not an IPv4 address. -/
theorem isGroup_of_append {address last : List Char}
    (plain : IsPlainIpv6 (address ++ ':' :: last)) (noColon : ∀ char ∈ last, (char == ':') = false)
    (filled : last ≠ []) (digits : ∀ char ∈ last, isDigitLike char = true) :
    isGroup last = true := by
  have isPiece : last ∈ pieces (· == ':') (address ++ ':' :: last) := by
    rw [pieces_append_separator (by decide), pieces_of_absent noColon]
    exact List.mem_append_right _ List.mem_cons_self
  rcases plain.cases_of_mem_pieces isPiece with empty | isOne | dotted
  · exact absurd empty filled
  · exact isOne
  · have stop := digits '.' (dot_mem_of_isIpv4 dotted)
    exact absurd stop (by decide)

end IsPlainIpv6

/-- An address with a zone has an address in front of the zone. -/
theorem exists_isPlainIpv6 (accepted : isIpv6 text = true) :
    ∃ address zone, text = address ++ zone ∧ IsPlainIpv6 address := by
  have whole := accepted
  simp only [isIpv6, Bool.and_eq_true] at accepted
  obtain ⟨unslashed, grouped⟩ := accepted
  cases cut : partitionAt (· == '%') text with
  | mk address zone =>
      cases zone with
      | none =>
          have absent := (partitionAt_none cut).2
          refine ⟨text, [], (List.append_nil text).symm, whole, fun member => ?_⟩
          exact absurd (absent '%' member) (by decide)
      | some zone =>
          obtain ⟨percent, -, split, absent⟩ := partitionAt_some cut
          have zoneless : '%' ∉ address := fun member => absurd (absent '%' member) (by decide)
          have slashless : address.contains '/' = false := by
            simp only [Bool.not_eq_true', List.contains_eq_mem, decide_eq_false_iff_not]
              at unslashed ⊢
            exact fun member => unslashed (split ▸ List.mem_append_left _ member)
          simp only [cut, Bool.and_eq_true] at grouped
          refine ⟨address, percent :: zone, split, ?_, zoneless⟩
          rw [isIpv6, slashless, partitionAt_of_none (· == '%') address absent]
          exact grouped.2

/-- An address, with or without a zone, begins with a colon or a digit. -/
theorem head_of_isIpv6 (accepted : isIpv6 text = true) :
    ∃ first rest, text = first :: rest ∧
      (first = ':' ∨ first = '.' ∨ isHexDigit first = true) := by
  obtain ⟨address, zone, split, plain⟩ := exists_isPlainIpv6 accepted
  cases address with
  | nil => exact absurd plain.two_le_count_colon (by decide)
  | cons first rest =>
      exact ⟨first, rest ++ zone, split, plain.mem_cases List.mem_cons_self⟩

end ForwardedClient.Address
