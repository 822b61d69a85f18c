/-!
Contract: cutting a text at separators.

Owns: `pieces`, the parts of a text between separators, and `partitionAt`, the text before
and after the first separator.

Does not own: trimming, and the dropping of empty parts; callers decide on both.
-/

namespace ForwardedClient.Text

/-- The parts of a text between separators, in order; always at least one part. -/
def pieces (isSeparator : Char → Bool) : List Char → List (List Char)
  | [] => [[]]
  | char :: rest =>
    if isSeparator char then
      [] :: pieces isSeparator rest
    else
      match pieces isSeparator rest with
      | [] => [[char]]
      | first :: others => (char :: first) :: others

/-- The text before the first separator, and the text after it if there is one. -/
def partitionAt (isSeparator : Char → Bool) : List Char → List Char × Option (List Char)
  | [] => ([], none)
  | char :: rest =>
    if isSeparator char then ([], some rest)
    else
      let (before, after) := partitionAt isSeparator rest
      (char :: before, after)

theorem pieces_ne_nil (isSeparator : Char → Bool) (text : List Char) :
    pieces isSeparator text ≠ [] := by
  induction text with
  | nil => simp [pieces]
  | cons char rest inductionHypothesis =>
    unfold pieces
    split
    · simp
    · split <;> simp

theorem partitionAt_of_none (isSeparator : Char → Bool) (text : List Char)
    (absent : ∀ char ∈ text, isSeparator char = false) :
    partitionAt isSeparator text = (text, none) := by
  induction text with
  | nil => rfl
  | cons char rest inductionHypothesis =>
    have headAbsent : isSeparator char = false := absent char (by simp)
    have restAbsent : ∀ other ∈ rest, isSeparator other = false := fun other member =>
      absent other (by simp [member])
    simp [partitionAt, headAbsent, inductionHypothesis restAbsent]

end ForwardedClient.Text
