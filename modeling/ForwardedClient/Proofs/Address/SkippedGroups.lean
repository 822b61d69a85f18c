import ForwardedClient.Proofs.Address.Ipv6

/-!
Contract: where an IPv6 address skips groups.

Owns: how groups are counted on both sides of the empty one, and which addresses are still addresses
without their last group.

Does not own: the characters of an address, and its zone.
-/

namespace ForwardedClient.Address

open ForwardedClient.Text

variable {text : List Char}

theorem noDot_of_isGroup {group : List Char} (isOne : isGroup group = true) : '.' ∉ group :=
  fun member => absurd (isHexDigit_of_mem_group isOne member) (by decide)

theorem withoutDottedTail_append {groups : List (List Char)} {tail : List Char} (plain : '.' ∉ tail) :
    withoutDottedTail (groups ++ [tail]) = some (groups ++ [tail]) := by
  have undotted : ¬ tail.contains '.' = true := by
    rwa [List.contains_iff_mem]
  rw [withoutDottedTail, List.getLast?_concat]
  simp only [if_neg undotted]

theorem sideOfSkip_append {side : List (List Char)} {group : List Char}
    (isOne : isGroup group = true) : sideOfSkip (side ++ [group]) = side ++ [group] := by
  unfold sideOfSkip
  rw [if_neg]
  intro skipped
  have last := congrArg List.getLast? (beq_iff_eq.mp skipped)
  rw [List.getLast?_concat] at last
  rw [Option.some.inj last] at isOne
  exact absurd isOne (by decide)

theorem areGroups_of_filled {groups : List (List Char)} (filled : [] ∉ groups.tail.dropLast) :
    areGroups groups = (groups.length == 8 && groups.all isGroup) := by
  have unskipped : ¬ groups.tail.dropLast.contains [] = true := by
    rwa [List.contains_iff_mem]
  simp only [areGroups]
  rw [if_neg unskipped]

/-- Groups are counted on both sides of the first empty one. -/
theorem areGroups_of_skip {first final : List Char} {early late : List (List Char)}
    (filled : [] ∉ early) :
    areGroups (first :: (early ++ [] :: (late ++ [final]))) =
      ((sideOfSkip (first :: early)).all isGroup && (sideOfSkip (late ++ [final])).all isGroup &&
        decide ((sideOfSkip (first :: early)).length + (sideOfSkip (late ++ [final])).length < 8)) := by
  have ending : first :: (early ++ [] :: (late ++ [final])) =
      (first :: (early ++ [] :: late)) ++ [final] := by
    simp only [List.cons_append, List.append_assoc]
  have middle : (first :: (early ++ [] :: (late ++ [final]))).tail.dropLast = early ++ [] :: late := by
    rw [ending, List.cons_append, List.tail_cons, List.dropLast_concat]
  have notEmpty : ∀ group ∈ early, (group != []) = true := by
    intro group member
    rw [bne_iff_ne]
    rintro rfl
    exact filled member
  have skipped : (early ++ [] :: late).contains [] = true := by
    rw [List.contains_iff_mem]
    exact List.mem_append_right _ List.mem_cons_self
  simp only [areGroups]
  rw [middle, if_pos skipped, List.takeWhile_append_of_pos notEmpty,
    List.dropWhile_append_of_pos notEmpty, List.takeWhile_cons_of_neg (by decide),
    List.dropWhile_cons_of_neg (by decide), List.append_nil, List.tail_cons, ending,
    List.getLast?_concat]
  rfl

/-- All but the last group of an address form a shorter one exactly if the skipped groups are
among them. -/
theorem areGroups_iff_of_append {groups : List (List Char)} {last : List Char}
    (several : 2 ≤ groups.length) (isOne : isGroup last = true)
    (accepted : areGroups (groups ++ [last]) = true) :
    areGroups groups = true ↔ [] ∈ groups.tail.dropLast := by
  obtain ⟨first, inner, final, rfl⟩ := exists_ends several
  have middle : (first :: (inner ++ [final])).tail.dropLast = inner := by
    rw [List.tail_cons, List.dropLast_concat]
  have longerMiddle : (first :: (inner ++ [final]) ++ [last]).tail.dropLast = inner ++ [final] := by
    rw [List.cons_append, List.tail_cons, List.dropLast_concat]
  rw [middle]
  constructor
  · intro shorter
    refine Decidable.byContradiction fun filled => ?_
    rw [areGroups_of_filled (by rwa [middle]), Bool.and_eq_true, beq_iff_eq, List.all_eq_true]
      at shorter
    have finalFilled : final ≠ [] := by
      rintro rfl
      exact absurd (shorter.2 [] (by simp)) (by decide)
    have longerFilled : [] ∉ inner ++ [final] := by
      rw [List.mem_append, List.mem_singleton]
      rintro (inside | same)
      · exact filled inside
      · exact finalFilled same.symm
    rw [areGroups_of_filled (by rwa [longerMiddle]), Bool.and_eq_true, beq_iff_eq,
      List.length_append, shorter.1, List.length_singleton] at accepted
    exact absurd accepted.1 (by decide)
  · intro member
    obtain ⟨early, late, rfl, filled⟩ := List.eq_append_cons_of_mem member
    have shorter : first :: (early ++ [] :: late ++ [final]) =
        first :: (early ++ [] :: (late ++ [final])) := by
      simp only [List.cons_append, List.append_assoc]
    have longer : first :: (early ++ [] :: late ++ [final]) ++ [last] =
        first :: (early ++ [] :: ((late ++ [final]) ++ [last])) := by
      simp only [List.cons_append, List.append_assoc]
    rw [longer, areGroups_of_skip filled, sideOfSkip_append isOne] at accepted
    simp only [Bool.and_eq_true, decide_eq_true_eq, List.all_append, List.length_append,
      List.all_cons] at accepted
    obtain ⟨⟨before, ⟨after, isFinal, -⟩, -⟩, few⟩ := accepted
    rw [shorter, areGroups_of_skip filled, sideOfSkip_append isFinal]
    simp only [Bool.and_eq_true, decide_eq_true_eq, List.all_append, List.length_append,
      List.all_cons]
    exact ⟨⟨before, after, isFinal, rfl⟩, by omega⟩

namespace IsPlainIpv6

theorem isIpv6_eq (zoneless : '%' ∉ text) (unslashed : '/' ∉ text) :
    isIpv6 text = Address.isIpv6Plain text := by
  have absent : ∀ char ∈ text, (char == '%') = false := by
    intro char member
    rw [beq_eq_false_iff_ne]
    exact fun same => zoneless (same ▸ member)
  have whole : text.contains '/' = false := by
    rwa [← Bool.not_eq_true, List.contains_iff_mem]
  simp only [isIpv6, partitionAt_of_none (· == '%') text absent, whole, Bool.not_false,
    Bool.true_and]

/-- An address without its last group is an address exactly if it skips groups before it. -/
theorem isIpv6_iff_of_append {front last : List Char} (plain : IsPlainIpv6 (front ++ ':' :: last))
    (noColon : ∀ char ∈ last, (char == ':') = false) (isOne : isGroup last = true) :
    isIpv6 front = true ↔ ∃ before after, front = before ++ ':' :: ':' :: after := by
  have parted : pieces (· == ':') (front ++ ':' :: last) = pieces (· == ':') front ++ [last] := by
    rw [pieces_append_separator (by decide), pieces_of_absent noColon]
  have accepted := plain.isIpv6Plain
  simp only [Address.isIpv6Plain, parted, withoutDottedTail_append (noDot_of_isGroup isOne),
    Bool.and_eq_true, decide_eq_true_eq, List.length_append, List.length_singleton] at accepted
  obtain ⟨several, grouped⟩ := accepted
  have undotted : withoutDottedTail (pieces (· == ':') front) = some (pieces (· == ':') front) := by
    have final := List.dropLast_concat_getLast (pieces_ne_nil (· == ':') front)
    rw [← final]
    refine withoutDottedTail_append ?_
    rcases cases_of_areGroups grouped (by rw [List.length_append]; omega)
        (List.mem_append_left _ (List.getLast_mem (pieces_ne_nil (· == ':') front))) with
      empty | isGroup
    · rw [empty]
      exact List.not_mem_nil
    · exact noDot_of_isGroup isGroup
  have skips := areGroups_iff_of_append (by omega) isOne grouped
  have enough : [] ∈ (pieces (· == ':') front).tail.dropLast →
      3 ≤ (pieces (· == ':') front).length := by
    intro member
    have inner := List.length_pos_of_mem member
    rw [List.length_dropLast, List.length_tail] at inner
    omega
  have zoneless : '%' ∉ front := fun member => plain.zoneless (List.mem_append_left _ member)
  have unslashed : '/' ∉ front := by
    intro member
    rcases plain.mem_cases (List.mem_append_left _ member) with colon | stop | digit
    · exact absurd colon (by decide)
    · exact absurd stop (by decide)
    · exact absurd digit (by decide)
  rw [isIpv6_eq zoneless unslashed, Address.isIpv6Plain, undotted]
  simp only [Bool.and_eq_true, decide_eq_true_eq]
  rw [skips, and_iff_right_of_imp enough, nil_mem_inner_pieces_iff]
  simp only [beq_iff_eq]
  constructor
  · rintro ⟨before, first, second, after, spelled, rfl, rfl⟩
    exact ⟨before, after, spelled⟩
  · rintro ⟨before, after, spelled⟩
    exact ⟨before, ':', ':', after, spelled, rfl, rfl⟩

end IsPlainIpv6
end ForwardedClient.Address
