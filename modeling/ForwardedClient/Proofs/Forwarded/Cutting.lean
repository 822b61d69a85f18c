import ForwardedClient.Proofs.Forwarded.Scan
import ForwardedClient.Proofs.Text.Pieces

/-!
Contract: the pairs of a header value, told without a scanner.

Owns: `cutPairs`, which cuts a value at its separators and each piece at its first equals sign; the
state of the scanner after any part of a piece; that the scanner yields the pairs of the cut.

Does not own: what the pairs mean.
-/

namespace ForwardedClient.Forwarded

open ForwardedClient.Text

/-! ### The plain definition -/

/-- The characters that have no place in a key or a value. -/
def isDropped (char : Char) : Bool := char == '=' || (char == ' ' || char == '"')

def undropped (text : List Char) : List Char := text.filter fun char => !isDropped char

/-- What stands in a piece before its first equals sign, and what stands after it. -/
def cutPair (piece : List Char) : String × String :=
  let key := piece.takeWhile (· != '=')
  let value := (piece.dropWhile (· != '=')).tail
  (String.ofList (undropped key), String.ofList (undropped value))

def isFinished (pair : String × String) : Bool := pair.1 != "" && pair.2 != ""

/-- The pairs of the pieces between separators: a piece that a separator ends has its pair in any
case, the last piece only if both parts of its pair are non-empty. -/
def cutPairs (value : String) : List (String × String) :=
  let cut := value.toList.splitOnP isBreak
  cut.dropLast.map cutPair ++ ((cut.getLast?.map cutPair).filter isFinished).toList

namespace Scan

/-! ### The scanner within a piece -/

section Piece

variable {key value : List Char}

theorem undropped_cons (char : Char) (rest : List Char) :
    undropped (char :: rest) = undropped [char] ++ undropped rest :=
  List.filter_append [char] rest

theorem undropped_singleton (char : Char) :
    undropped [char] = if isDropped char then [] else [char] := by
  cases dropped : isDropped char <;> simp [undropped, dropped]

theorem push_of_inKey {char : Char} (other : char ≠ '=') :
    push ⟨key, value, true⟩ char = ⟨key ++ undropped [char], value, true⟩ := by
  have notEquals : (char == '=') = false := beq_eq_false_iff_ne.mpr other
  rw [undropped_singleton]
  cases blank : char == ' ' || char == '"' <;> simp [push, isDropped, notEquals, blank]

theorem push_of_inValue (char : Char) :
    push ⟨key, value, false⟩ char = ⟨key, value ++ undropped [char], false⟩ := by
  rw [undropped_singleton]
  cases equals : char == '=' <;> cases blank : char == ' ' || char == '"' <;>
    simp [push, isDropped, equals, blank]

/-- After the first equals sign all that counts goes to the value. -/
theorem foldl_push_of_inValue (text : List Char) :
    text.foldl push ⟨key, value, false⟩ = ⟨key, value ++ undropped text, false⟩ := by
  induction text generalizing value with
  | nil => rw [List.foldl_nil, undropped, List.filter_nil, List.append_nil]
  | cons char rest inductionHypothesis =>
      rw [List.foldl_cons, push_of_inValue, inductionHypothesis, List.append_assoc,
        ← undropped_cons]

/-- By induction on the part of a piece that was read: what stands before its first equals sign is
in the key, and what stands after it is in the value. -/
theorem foldl_push_of_inKey (text : List Char) :
    text.foldl push ⟨key, value, true⟩ =
      ⟨key ++ undropped (text.takeWhile (· != '=')),
        value ++ undropped (text.dropWhile (· != '=')).tail, text.all (· != '=')⟩ := by
  induction text generalizing key with
  | nil => simp [undropped]
  | cons char rest inductionHypothesis =>
      rw [List.foldl_cons]
      by_cases equals : char = '='
      · have begins : push ⟨key, value, true⟩ '=' = ⟨key, value, false⟩ := rfl
        rw [equals, begins, foldl_push_of_inValue]
        simp [undropped]
      · rw [push_of_inKey equals, inductionHypothesis, List.append_assoc, ← undropped_cons]
        simp [equals]

end Piece

/-- A piece that was read whole is the pair that the plain definition cuts it into. -/
theorem pair_foldl_push (piece : List Char) : (piece.foldl push {}).pair = cutPair piece := by
  rw [foldl_push_of_inKey piece]
  rfl

/-! ### The scanner across pieces -/

variable {text : List Char}

theorem isFinished_pair (scan : Scan) :
    isFinished scan.pair = !(scan.key.isEmpty || scan.value.isEmpty) := by
  rw [Bool.eq_iff_iff]
  simp [isFinished, pair]

/-- A piece that nothing ends counts if its pair has a key and a value. -/
theorem run_of_last (absent : ∀ char ∈ text, isBreak char = false) :
    run {} text = ((some (cutPair text)).filter isFinished).toList := by
  rw [run_of_noBreak absent, ← pair_foldl_push, Option.filter_some, isFinished_pair]
  cases (text.foldl push {}).key.isEmpty || (text.foldl push {}).value.isEmpty <;> rfl

/-- By induction on the pieces that a separator ends: each yields its pair and leaves the scanner as
it was at the start. -/
theorem run_of_pieces {ended : List (List Char)} {last : List Char}
    (cut : pieces isBreak text = ended ++ [last]) :
    run {} text = ended.map cutPair ++ ((some (cutPair last)).filter isFinished).toList := by
  induction ended generalizing text with
  | nil =>
      obtain ⟨absent, rfl⟩ := pieces_eq_singleton_iff.mp cut
      exact run_of_last absent
  | cons piece others inductionHypothesis =>
      have split : pieces isBreak text = [piece] ++ (others ++ [last]) := cut
      obtain ⟨before, mark, after, rfl, ends, alone, rest⟩ :=
        exists_separator_of_pieces split (List.cons_ne_nil _ _) (List.concat_ne_nil _ _)
      obtain ⟨absent, rfl⟩ := pieces_eq_singleton_iff.mp alone
      rw [run_append_break ends absent, pair_foldl_push, inductionHypothesis rest, List.map_cons,
        List.cons_append]

end Scan

/-- The scanner yields the pairs of the pieces of a value. -/
theorem pairs_eq_cutPairs (value : String) : pairs value = cutPairs value := by
  have filled : pieces isBreak value.toList ≠ [] := pieces_ne_nil isBreak value.toList
  have cut := (List.dropLast_concat_getLast filled).symm
  rw [pairs, Scan.run_of_pieces cut, cutPairs, ← pieces_eq_splitOnP,
    List.getLast?_eq_some_getLast filled, Option.map_some]

example : pairs "for=\"a,b\";;by" = [("for", "a"), ("b", ""), ("", "")] := by decide

end ForwardedClient.Forwarded
