import ForwardedClient.Proofs.Pattern.Language

/-!
Contract: a text cut at the places that a pattern takes.

Owns: `split`, the parts of a text between what a tree takes of it from left to right, and how a
greedy repetition of single characters runs: to the end of the characters it accepts, if what
follows it there either succeeds or cannot succeed at any earlier place.

Does not own: trees that may take nothing, at which a text is not cut.
-/

namespace ForwardedClient.Pattern.Node

/-! ### Cutting -/

/-- The place behind what a tree takes at a place, if it takes something there. -/
def behind? (node : Node) (place : Place) : Option Place :=
  (node.run place some).filter (·.after.length < place.after.length)

theorem shorter_of_behind {node : Node} {place next : Place}
    (found : node.behind? place = some next) : next.after.length < place.after.length := by
  obtain ⟨-, shorter⟩ := Option.filter_eq_some_iff.mp found
  exact of_decide_eq_true shorter

/-- The parts of the rest of a text. The tree is run at each place in turn; where it takes
something, the part that has begun ends and the next one begins behind what was taken. -/
def splitFrom (node : Node) (part : List Char) (place : Place) : List (List Char) :=
  match found : node.behind? place with
  | some next =>
    have _shorter := shorter_of_behind found
    part :: node.splitFrom [] next
  | none =>
    match ahead : place.after with
    | [] => [part]
    | char :: rest =>
      have _shorter : rest.length < place.after.length := ahead ▸ Nat.lt_succ_self rest.length
      node.splitFrom (part ++ [char]) (place.step char rest)
termination_by place.after.length

def split (node : Node) (text : List Char) : List (List Char) :=
  node.splitFrom [] { after := text }

section Cutting

variable {node : Node} {place : Place} (part : List Char)

theorem splitFrom_of_found {next : Place} (found : node.run place some = some next)
    (shorter : next.after.length < place.after.length) :
    node.splitFrom part place = part :: node.splitFrom [] next := by
  have behind : node.behind? place = some next :=
    Option.filter_eq_some_iff.mpr ⟨found, decide_eq_true shorter⟩
  rw [splitFrom]
  split
  · rename_i other isOther
    obtain rfl := Option.some.inj (isOther.symm.trans behind)
    rfl
  · rename_i missed
    exact absurd (missed.symm.trans behind) nofun

theorem behind_of_missed (missed : node.run place some = none) : node.behind? place = none := by
  rw [behind?, missed]
  rfl

theorem splitFrom_of_ended (missed : node.run place some = none) (ended : place.after = []) :
    node.splitFrom part place = [part] := by
  rw [splitFrom]
  split
  · rename_i found
    exact absurd (found.symm.trans (behind_of_missed missed)) nofun
  · split
    · rfl
    · rename_i ahead
      exact absurd (ahead.symm.trans ended) nofun

theorem splitFrom_of_missed {char : Char} {rest : List Char}
    (missed : node.run place some = none) (ahead : place.after = char :: rest) :
    node.splitFrom part place = node.splitFrom (part ++ [char]) (place.step char rest) := by
  rw [splitFrom]
  split
  · rename_i found
    exact absurd (found.symm.trans (behind_of_missed missed)) nofun
  · split
    · rename_i ended
      exact absurd (ended.symm.trans ahead) nofun
    · rename_i isAhead
      obtain ⟨rfl, rfl⟩ := List.cons.inj (isAhead.symm.trans ahead)
      rfl

end Cutting

/-! ### Repeated characters -/

section Repetition

variable {charClass : CharClass} {rest : Rest} {place : Place}

/-- The place behind the characters of a class. -/
def beyond (charClass : CharClass) (place : Place) : Place :=
  place.advance (place.after.takeWhile charClass.contains)
    (place.after.dropWhile charClass.contains)

theorem beyond_of_accepted {char : Char} {chars : List Char} (ahead : place.after = char :: chars)
    (accepted : charClass.contains char = true) :
    beyond charClass (place.step char chars) = beyond charClass place := by
  rw [beyond, beyond, ahead, List.takeWhile_cons_of_pos accepted,
    List.dropWhile_cons_of_pos accepted]
  exact Place.advance_advance place [char] _ _ _

theorem beyond_of_refused (refused : place.after.head?.any charClass.contains = false) :
    beyond charClass place = place := by
  have taken : place.after.takeWhile charClass.contains = [] ∧
      place.after.dropWhile charClass.contains = place.after := by
    cases ahead : place.after with
    | nil => exact ⟨rfl, rfl⟩
    | cons char chars =>
        rw [ahead] at refused
        have other : ¬ charClass.contains char = true := by simpa using refused
        exact ⟨List.takeWhile_cons_of_neg other, List.dropWhile_cons_of_neg other⟩
  rw [beyond, taken.1, taken.2, Place.advance_nil]

/-- That what follows a repetition succeeds behind all characters of the class, or fails wherever
such a character comes next. -/
def IsSettled (charClass : CharClass) (rest : Rest) (place : Place) : Prop :=
  (rest (beyond charClass place)).isSome = true ∨
    ∀ middle : Place, middle.after.head?.any charClass.contains = true → rest middle = none

theorem runGreedy_of_isSettled {fuel : Nat} {last : Option Nat}
    (fuelled : place.after.length + 2 ≤ fuel) (fresh : ∀ start ∈ last, start < place.offset)
    (settled : IsSettled charClass rest place) :
    runGreedy (fun next onward => (one charClass).run next onward) rest fuel 0 none last place =
      rest (beyond charClass place) := by
  induction fuel generalizing last place with
  | zero => omega
  | succ fuel inductionHypothesis =>
      have begins : mayTurn none last place = true := by
        rw [mayTurn, Bool.and_eq_true, bne_iff_ne, bne_iff_ne]
        exact ⟨(Option.some_ne_none 0).symm, fun same => Nat.lt_irrefl _ (fresh place.offset same)⟩
      rw [runGreedy_zero, if_pos begins, run]
      cases ahead : place.after with
      | nil => rw [Option.none_or, beyond_of_refused (by rw [ahead]; rfl)]
      | cons char chars =>
          by_cases accepted : charClass.contains char = true
          · have same := beyond_of_accepted ahead accepted
            have fuelledLater : (place.step char chars).after.length + 2 ≤ fuel := by
              rw [ahead, List.length_cons] at fuelled
              exact Nat.le_of_succ_le_succ fuelled
            have later := inductionHypothesis fuelledLater
              (fun start known => Option.mem_some.mp known ▸ Nat.lt_succ_self place.offset)
              (by rw [IsSettled, same]; exact settled)
            rw [same] at later
            simp only [if_pos accepted, Option.map_none, later]
            rcases settled with found | stuck
            · exact Option.or_of_isSome found
            · rw [stuck place (by rw [ahead]; exact accepted), Option.or_none]
          · have refused : place.after.head?.any charClass.contains = false := by
              rw [ahead]
              exact Bool.eq_false_iff.mpr accepted
            simp only [if_neg accepted, Option.none_or, beyond_of_refused refused]

/-- A repetition goes to the end of the characters that it accepts. -/
theorem run_of_isSettled (settled : IsSettled charClass rest place) :
    (repeated .greedy 0 none (.one charClass)).run place rest = rest (beyond charClass place) := by
  have fuelled : place.after.length + 2 ≤ turnFuel 0 place :=
    Nat.le_of_eq (by rw [turnFuel, Nat.zero_add])
  rw [run]
  exact runGreedy_of_isSettled fuelled (fun _ known => (Option.not_mem_none _ known).elim) settled

end Repetition

end ForwardedClient.Pattern.Node
