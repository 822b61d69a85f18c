import ForwardedClient.Proofs.Chain.CommaList
import ForwardedClient.Proofs.Forwarded.DirectiveMap

/-!
Contract: the occurrences of a header are read as one header that joins them.

Owns: the law that a separator between two texts and the end of an occurrence between them come
to the same, for chains and for directives.

Does not own: what single texts are read as, which may be anything.
-/

namespace ForwardedClient.Forwarded

open ForwardedClient.Journal
open ForwardedClient.Text

/-! ### Pairs that nobody finished -/

/-- A pair without a key or without a value contributes nothing, and nothing is remarked of it. -/
theorem normalize_of_unfinished {key value : String} (unfinished : key = "" ∨ value = "") :
    normalize key value = (none, []) := by
  have dropped : (!isKnown (lower key) || value.isEmpty) = true := by
    rcases unfinished with noKey | noValue
    · have unknown : isKnown (lower "") = false := by decide
      rw [noKey, unknown]
      rfl
    · rw [noValue]
      exact Bool.or_true _
  simp only [normalize, dropped, if_true]

namespace DirectiveMap

theorem addPair_of_unfinished (state : DirectiveMap × List Report) {pair : String × String}
    (unfinished : pair.1 = "" ∨ pair.2 = "") : addPair state pair = state := by
  unfold addPair
  rw [normalize_of_unfinished unfinished]
  exact Prod.ext rfl (List.append_nil state.2)

theorem foldl_addPair_of_unfinished (state : DirectiveMap × List Report)
    {raw : List (String × String)} (unfinished : ∀ pair ∈ raw, pair.1 = "" ∨ pair.2 = "") :
    raw.foldl addPair state = state := by
  induction raw with
  | nil => rfl
  | cons pair rest inductionHypothesis =>
      rw [List.foldl_cons, addPair_of_unfinished state (unfinished pair List.mem_cons_self)]
      exact inductionHypothesis fun other member =>
        unfinished other (List.mem_cons_of_mem pair member)

/-- Wherever a separator stands in an occurrence of the header, the occurrence may be taken apart
there: the map and the remarks are the same. -/
theorem read_append_break {mark : Char} (ends : isBreak mark = true)
    (before after : List String) (left right : String) :
    read (before ++ [left ++ String.singleton mark ++ right] ++ after) =
      read (before ++ [left, right] ++ after) := by
  obtain ⟨unfinished, cut, empty⟩ := pairs_append_mark ends left
  have skipped : ∀ state : DirectiveMap × List Report, unfinished.foldl addPair state = state :=
    fun state => foldl_addPair_of_unfinished state empty
  simp only [read, List.flatMap_append, List.flatMap_cons, List.flatMap_nil, List.append_nil,
    List.foldl_append, pairs_append_break ends left right, cut, skipped]

/-- Occurrences are read as one. A chain is made of the chains of its occurrences, in their order;
and two occurrences of the standard header, among any others, make the same map, with the same
remarks, as the one in which a comma or a semicolon joins them. -/
theorem occurrences_read_as_joined (older newer before after : List String)
    (left right : String) :
    Chain.read (older ++ newer) = Chain.read older ++ Chain.read newer ∧
      read (before ++ [left ++ "," ++ right] ++ after) =
        read (before ++ [left, right] ++ after) ∧
      read (before ++ [left ++ ";" ++ right] ++ after) =
        read (before ++ [left, right] ++ after) := by
  have comma : "," = String.singleton ',' := by decide
  have semicolon : ";" = String.singleton ';' := by decide
  refine ⟨?chain, ?comma, ?semicolon⟩
  case chain =>
    rw [Chain.read_eq_flatMap, Chain.read_eq_flatMap, Chain.read_eq_flatMap,
      List.flatMap_append]
  case comma =>
    rw [comma]
    exact read_append_break (by decide) before after left right
  case semicolon =>
    rw [semicolon]
    exact read_append_break (by decide) before after left right

example : (read ["for=a; =x", "proto=https;;by"]).1 = (read ["for=a; =x,proto=https;;by"]).1 := by
  decide +kernel

end DirectiveMap

end ForwardedClient.Forwarded
