import ForwardedClient.Proofs.Forwarded.Respelling
import Mathlib.Data.List.Forall2

/-!
Contract: a map that was written into a header is read back from it.

Owns: what each value becomes by being written and read, the values of the map that is read, and
what the header states of addresses, proxies, protocols and hosts.

Does not own: maps with `for` values that are no nodes, and the order of the directives.
-/

namespace ForwardedClient.Forwarded

open ForwardedClient.Text

/-- What a value becomes by being written and read: hosts and the nodes of `by` keep the brackets
that they were written with. -/
def reread (name value : String) : String :=
  if name = "by" ∨ name = "host" then spellNode value else value

theorem reread_of_spelled {name : String} (spelled : name = "by" ∨ name = "host") :
    reread name = spellNode :=
  funext fun _ => if_pos spelled

theorem reread_of_kept {name : String} (kept : ¬ (name = "by" ∨ name = "host")) :
    reread name = id :=
  funext fun _ => if_neg kept

theorem again_eq_reread {name value : String} (known : isKnown name = true)
    (node : name = "for" → IsNode value) : again name value = reread name value := by
  rcases cases_of_isKnown known with same | same | same | same
  · subst same
    rw [(node rfl).again_eq, reread_of_kept (by decide)]
    rfl
  · subst same
    rw [again, recorded_of_kept (by simp), spell_of_hasAddress (by decide),
      reread_of_spelled (by decide)]
  · subst same
    rw [again, recorded_of_kept (by simp), spell_of_hasAddress (by decide),
      reread_of_spelled (by decide)]
  · subst same
    rw [again, recorded_of_kept (by simp), spell_of_not_hasAddress (by decide),
      reread_of_kept (by decide)]

namespace DirectiveMap

variable {map : DirectiveMap}

/-- Written and read, a well-formed map whose `for` values are nodes has its values again, up to
the brackets of `by` and `host`. -/
theorem values_read_write (wellFormed : map.IsWellFormed)
    (nodes : ∀ value ∈ map.values "for", IsNode value) (name : String) :
    (read [map.write]).1.values name = (map.values name).map (reread name) := by
  have settled : map.IsSettled := by
    intro entry member value inside
    by_cases isFor : entry.1 = "for"
    · have own := values_of_mem wellFormed.distinct member
      have node : IsNode value := nodes value (by rw [← isFor, own]; exact inside)
      exact node.recorded_eq entry.1
    · exact recorded_of_kept fun opened => isFor opened.1
  rw [values_read_write_of_settled wellFormed settled]
  refine List.map_congr_left fun value member => ?_
  have accepted := wellFormed.isAccepted_of_mem_values member
  exact again_eq_reread accepted.known fun isFor => nodes value (isFor ▸ member)

end DirectiveMap

/-! ### What a header states -/

/-- How a host comes back from a header: as it was, or in brackets if it has two or more
colons. -/
def IsReread (value again : String) : Prop :=
  again = value ∨ 2 ≤ value.toList.count ':' ∧ IsBracketed value again

/-- The occurrences of a header that states addresses, proxies, protocols and hosts: one, or none
if there is nothing to state. A directive without values is not named in it. -/
structure States (occurrences addresses proxies protocols hosts : List String) : Prop where
  once : occurrences.length ≤ 1
  addresses : (DirectiveMap.read occurrences).1.values "for" = addresses
  proxies : ((DirectiveMap.read occurrences).1.values "by").map withoutBrackets = proxies
  protocols : (DirectiveMap.read occurrences).1.values "proto" = protocols
  hosts : List.Forall₂ IsReread hosts ((DirectiveMap.read occurrences).1.values "host")
  absent : ∀ name, (DirectiveMap.read occurrences).1.values name = [] →
    (DirectiveMap.read occurrences).1.find? name = none ∧
      ∀ text ∈ occurrences, ∀ pair ∈ pairs text, lower pair.1 ≠ name
  empty : (∀ name, (DirectiveMap.read occurrences).1.values name = []) → occurrences = []

namespace DirectiveMap

variable {map : DirectiveMap}

/-- The occurrences of a header with the text of a map; none if there is no text. -/
def occurrences (map : DirectiveMap) : List String :=
  if map.write.isEmpty then [] else [map.write]

theorem read_occurrences (map : DirectiveMap) :
    (read map.occurrences).1 = (read [map.write]).1 := by
  unfold occurrences
  split
  · rename_i empty
    rw [String.isEmpty_iff.mp empty]
    rfl
  · rfl

/-- The text of a map names only directives that have values. -/
theorem values_ne_nil_of_mem_pairs (wellFormed : map.IsWellFormed) {pair : String × String}
    (member : pair ∈ pairs map.write) : map.values (lower pair.1) ≠ [] := by
  rw [pairs_write_of_isWellFormed wellFormed] at member
  obtain ⟨entry, place, inEntry⟩ := List.mem_flatMap.mp member
  obtain ⟨value, -, same⟩ := List.mem_map.mp inEntry
  rw [← same, lower_of_isKnown (wellFormed.named entry place),
    values_of_mem wellFormed.distinct place]
  exact wellFormed.filled entry place

/-- A well-formed map is stated by the header with its text. -/
theorem states_occurrences (wellFormed : map.IsWellFormed)
    (addresses : ∀ value ∈ map.values "for", IsNode value)
    (proxies : ∀ value ∈ map.values "by", IsNode value) :
    States map.occurrences (map.values "for") (map.values "by") (map.values "proto")
      (map.values "host") := by
  have again : ∀ name,
      (read map.occurrences).1.values name = (map.values name).map (reread name) := by
    intro name
    rw [read_occurrences, values_read_write wellFormed addresses]
  have silent : ∀ name, (read map.occurrences).1.values name = [] → map.values name = [] := by
    intro name nothing
    rw [again] at nothing
    exact List.map_eq_nil_iff.mp nothing
  refine ⟨?once, ?addresses, ?proxies, ?protocols, ?hosts, ?absent, ?empty⟩
  case once =>
    unfold occurrences
    split <;> simp
  case addresses =>
    rw [again, reread_of_kept (by decide), List.map_id]
  case proxies =>
    rw [again, reread_of_spelled (by decide), List.map_map]
    refine (List.map_congr_left fun value member => ?_).trans (List.map_id' _)
    rw [Function.comp_apply, withoutBrackets_spellNode, (proxies value member).withoutBrackets_eq]
  case protocols =>
    rw [again, reread_of_kept (by decide), List.map_id]
  case hosts =>
    rw [again, reread_of_spelled (by decide), List.forall₂_map_right_iff, List.forall₂_same]
    exact fun value _ => cases_of_spellNode value
  case absent =>
    intro name nothing
    refine ⟨(isWellFormed_read _).find?_eq_none nothing, fun text member pair inside same => ?_⟩
    have written : text = map.write := by
      unfold occurrences at member
      split at member
      · exact absurd member List.not_mem_nil
      · exact List.mem_singleton.mp member
    exact values_ne_nil_of_mem_pairs wellFormed (written ▸ inside) (same ▸ silent name nothing)
  case empty =>
    intro nothing
    have entries := wellFormed.entries_eq_nil fun name => silent name (nothing name)
    have unwritten : map.write = "" := by
      rw [write, entries]
      rfl
    rw [occurrences, unwritten]
    rfl

end DirectiveMap

end ForwardedClient.Forwarded
