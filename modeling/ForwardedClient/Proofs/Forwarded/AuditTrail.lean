import ForwardedClient.Proofs.Forwarded.Respelling
import Mathlib.Data.List.Forall2

/-!
Contract: the `for` values that are left in a written header, and what they are read as.

Owns: the exact condition under which a `for` value comes back from its header, for values of any
content, and the spelling that the others come back in.

Does not own: the other directives, whose values keep their brackets.
-/

namespace ForwardedClient.Forwarded

open ForwardedClient.Address
open ForwardedClient.Text

/-! ### Values that come back -/

/-- A `for` value that comes back from the header it is written into: it is not written with
brackets of its own, or it is an IPv6 address with a port or alone whose zone does not close the
brackets too early, and whose end nobody takes for a port that it cannot be. -/
inductive IsReturned (value : String) : Prop where
  | opened (head : value.toList.head? = some '[')
  | short (few : value.toList.count ':' < 2)
  | ported (address port : List Char) (spelled : value.toList = address ++ ':' :: port)
      (ipv6 : isIpv6 address = true) (enclosed : ∀ char ∈ address, (char == ']') = false)
      (checked : isPortText port = true)
  | whole (ipv6 : isIpv6 value.toList = true)
      (enclosed : ∀ char ∈ value.toList, (char == ']') = false)
      (unsplit : ∀ address port, value.toList = address ++ ':' :: port →
        isIpv6 address = true → port ≠ [] → ¬ ∀ char ∈ port, isDigitLike char = true)

section Values

variable {value : String}

theorem noColon_of_isDigitLike {text : List Char}
    (digits : ∀ char ∈ text, isDigitLike char = true) :
    ∀ char ∈ text, (char == ':') = false := by
  intro char member
  rw [beq_eq_false_iff_ne]
  intro colon
  have digit := digits char member
  rw [colon] at digit
  exact absurd digit (by decide)

theorem noBracket_of_isPortText {text : List Char} (checked : isPortText text = true) :
    ∀ char ∈ text, (char == ']') = false := by
  intro char member
  rw [beq_eq_false_iff_ne]
  intro closing
  have token := isTokenChar_of_mem checked member
  rw [closing] at token
  exact absurd token (by decide)

/-- An address that is followed by digits is bracketed without them. -/
theorem bracket_of_digits {address port : List Char}
    (spelled : value.toList = address ++ ':' :: port) (ipv6 : isIpv6 address = true)
    (filled : port ≠ []) (digits : ∀ char ∈ port, isDigitLike char = true) :
    bracket value = "[" ++ String.ofList address ++ "]:" ++ String.ofList port := by
  have numbered : (!(String.ofList port).isEmpty && (String.ofList port).toList.all isDigitLike &&
      isIpv6Text (String.ofList address)) = true := by
    have written : String.ofList port ≠ "" := by
      intro empty
      have letters := congrArg String.toList empty
      rw [String.toList_ofList] at letters
      exact filled letters
    rw [Bool.and_eq_true, Bool.and_eq_true, Bool.not_eq_true', String.isEmpty_eq_false_iff,
      List.all_eq_true, isIpv6Text, String.toList_ofList, String.toList_ofList]
    exact ⟨⟨written, digits⟩, ipv6⟩
  unfold bracket
  simp only [splitAtLastColon_eq spelled (noColon_of_isDigitLike digits), numbered, if_true]

/-- An address with a checked port comes back from its brackets, although all of it may be an
address with a zone. -/
theorem unbracket_bracket_of_ported {address port : List Char}
    (spelled : value.toList = address ++ ':' :: port) (ipv6 : isIpv6 address = true)
    (enclosed : ∀ char ∈ address, (char == ']') = false) (checked : isPortText port = true) :
    (unbracket (bracket value)).1 = value := by
  unfold bracket
  simp only [splitAtLastColon_eq spelled (noColon_of_isPortText checked)]
  split
  · exact unbracket_ported spelled ipv6 enclosed checked
  · split
    · rename_i whole
      refine unbracket_whole whole fun char member => ?_
      rw [spelled, List.mem_append, List.mem_cons] at member
      rcases member with inAddress | colon | inPort
      · exact enclosed char inAddress
      · exact colon ▸ by decide
      · exact noBracket_of_isPortText checked char inPort
    · exact unbracket_ported spelled ipv6 enclosed checked

theorem unbracket_bracket_of_whole (ipv6 : isIpv6 value.toList = true)
    (enclosed : ∀ char ∈ value.toList, (char == ']') = false)
    (unsplit : ∀ address port, value.toList = address ++ ':' :: port →
      isIpv6 address = true → port ≠ [] → ¬ ∀ char ∈ port, isDigitLike char = true)
    (colon : ':' ∈ value.toList) : (unbracket (bracket value)).1 = value := by
  obtain ⟨address, port, spelled, noColon⟩ := exists_last_colon colon
  unfold bracket
  simp only [splitAtLastColon_eq spelled noColon]
  split
  · rename_i numbered
    simp only [Bool.and_eq_true, Bool.not_eq_true', String.toList_ofList, List.all_eq_true,
      isIpv6Text] at numbered
    have filled : port ≠ [] := by
      intro empty
      rw [empty] at numbered
      exact absurd numbered.1.1 (by decide)
    exact absurd numbered.1.2 (unsplit address port spelled numbered.2 filled)
  · rw [if_pos (show isIpv6Text value = true from ipv6)]
    exact unbracket_whole ipv6 enclosed

theorem again_for (value : String) : again "for" value = recorded "for" (spellNode value) := by
  rw [again, spell_of_hasAddress (by decide)]

/-- A value without brackets that has several colons comes back from brackets, if it does. -/
theorem again_of_bracketed (unopened : value.toList.head? ≠ some '[')
    (several : ¬ value.toList.count ':' < 2) :
    spellNode value = bracket value ∧ (bracket value).toList.head? = some '[' ∧
      again "for" value = (unbracket (bracket value)).1 := by
  have colon : ':' ∈ value.toList := List.count_pos_iff.mp (by omega)
  have head := head_of_isBracketed (isBracketed_bracket colon)
  have spelled : spellNode value = bracket value := by
    rw [spellNode, if_neg (by simpa using unopened), if_neg several]
  exact ⟨spelled, head, by rw [again_for, spelled, recorded_of_opened head]⟩

theorem IsReturned.again_eq (returned : IsReturned value)
    (settled : recorded "for" value = value) : again "for" value = value := by
  by_cases opened : value.toList.head? = some '['
  · rw [again_for, spellNode_of_opened opened, settled]
  · by_cases few : value.toList.count ':' < 2
    · rw [again_for, spellNode, if_neg (by simpa using opened), if_pos few, settled]
    · have colon : ':' ∈ value.toList := List.count_pos_iff.mp (by omega)
      rw [(again_of_bracketed opened few).2.2]
      cases returned with
      | opened head => exact absurd head opened
      | short little => exact absurd little few
      | ported address port spelled ipv6 enclosed checked =>
          exact unbracket_bracket_of_ported spelled ipv6 enclosed checked
      | whole ipv6 enclosed unsplit =>
          exact unbracket_bracket_of_whole ipv6 enclosed unsplit colon

/-- What comes back from brackets was read between them: an address, and a port if there is one. -/
theorem isReturned_of_again (same : again "for" value = value) : IsReturned value := by
  by_cases opened : value.toList.head? = some '['
  · exact .opened opened
  · by_cases few : value.toList.count ':' < 2
    · exact .short few
    · obtain ⟨-, head, back⟩ := again_of_bracketed opened few
      rw [same] at back
      cases parsed : HostLiteral.read (bracket value) with
      | error failure =>
          rw [unbracket_of_refused parsed] at back
          exact absurd (back ▸ head) opened
      | ok host =>
          obtain ⟨address, port, written, shown, ipv6, enclosed, checked⟩ :=
            enclosed_of_read head parsed
          rw [← back] at shown
          cases port with
          | some port =>
              exact .ported address port shown ipv6 enclosed (checked port rfl)
          | none =>
              have alone : value.toList = address := shown.trans (List.append_nil address)
              refine .whole (alone ▸ ipv6) (alone ▸ enclosed) ?_
              -- Brackets around all of a value leave no room for those in front of a port.
              intro front digits split plain filled numeric
              have inner : front ++ ']' :: ':' :: digits = front ++ ':' :: (digits ++ [']']) := by
                rw [bracket_of_digits split plain filled numeric, ← alone, split] at written
                simp only [String.toList_append, String.toList_ofList, List.append_assoc] at written
                exact (List.cons.inj written).2
              exact absurd (List.cons.inj (List.append_cancel_left inner)).1 (by decide)

/-- A value that does not come back is read in the brackets that it was written with. -/
theorem again_of_not_isReturned (settled : recorded "for" value = value)
    (lost : ¬ IsReturned value) : again "for" value = bracket value := by
  have opened : value.toList.head? ≠ some '[' := fun head => lost (.opened head)
  have several : ¬ value.toList.count ':' < 2 := fun few => lost (.short few)
  rcases cases_of_again settled with same | spelled
  · exact absurd (isReturned_of_again same) lost
  · rw [spelled, spell_of_hasAddress (by decide), (again_of_bracketed opened several).1]

end Values

/-! ### Lists of values -/

namespace DirectiveMap

theorem recorded_of_mem_values {map : DirectiveMap} (settled : map.IsSettled) {name value : String}
    (member : value ∈ map.values name) : recorded name value = value := by
  obtain ⟨entry, place, named, inside⟩ := mem_entries_of_mem_values member
  exact named ▸ settled entry place value inside

/-- The `for` values of a map that was read from headers of any content, after the map was written
and read once more: each value is as it was if it is one that comes back, and stands in its
brackets if it is not, so that the whole list is as it was exactly if all of its values come
back. -/
theorem for_values_return_iff (headers : List String) :
    List.Forall₂
        (fun value after => (IsReturned value → after = value) ∧
          (¬ IsReturned value → after = bracket value ∧ after ≠ value))
        ((read headers).1.values "for") ((read [(read headers).1.write]).1.values "for") ∧
      ((read [(read headers).1.write]).1.values "for" = (read headers).1.values "for" ↔
        ∀ value ∈ (read headers).1.values "for", IsReturned value) := by
  have own : ∀ value ∈ (read headers).1.values "for", recorded "for" value = value :=
    fun value member => recorded_of_mem_values (isSettled_read headers) member
  rw [values_read_write_of_settled (isWellFormed_read headers) (isSettled_read headers)]
  refine ⟨?each, ?all, ?back⟩
  case each =>
    rw [List.forall₂_map_right_iff, List.forall₂_same]
    intro value member
    refine ⟨fun returned => returned.again_eq (own value member), fun lost => ?_⟩
    exact ⟨again_of_not_isReturned (own value member) lost,
      fun same => lost (isReturned_of_again same)⟩
  case all =>
    intro same value member
    have fixed := List.map_eq_map_iff.mp (same.trans (List.map_id _).symm)
    exact isReturned_of_again (fixed value member)
  case back =>
    intro returned
    refine (List.map_congr_left fun value member => ?_).trans (List.map_id _)
    exact (returned value member).again_eq (own value member)

/-- Three groups that are no address get brackets at the first writing, and keep them. -/
theorem for_value_lost_in_brackets :
    ¬ ∀ headers : List String,
      (read [(read headers).1.write]).1.values "for" = (read headers).1.values "for" := by
  intro survives
  have back : (read [(read ["for=a:b:c"]).1.write]).1.values "for" = ["[a:b]:c"] := by
    decide +kernel
  have first : (read ["for=a:b:c"]).1.values "for" = ["a:b:c"] := by decide +kernel
  have same := survives ["for=a:b:c"]
  rw [back, first] at same
  exact absurd same (by decide)

end DirectiveMap

end ForwardedClient.Forwarded
