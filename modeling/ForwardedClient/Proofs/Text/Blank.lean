import ForwardedClient.Text.Blank
import Mathlib.Data.List.DropRight

/-!
Contract: what trimming leaves of a text.

Owns: `strip` as the removal of blanks from the left and then from the right, and its laws.

Does not own: what stands between the blanks.
-/

namespace ForwardedClient.Text

variable {text : List Char}

theorem strip_eq (text : List Char) :
    strip text = (text.dropWhile isBlank).rdropWhile isBlank := rfl

/-- A text without the blanks around it is a part of it. -/
theorem mem_of_mem_strip {char : Char} (member : char ∈ strip text) : char ∈ text := by
  rw [strip_eq] at member
  exact (List.dropWhile_suffix isBlank).mem ((List.rdropWhile_prefix isBlank _).mem member)

theorem mem_of_mem_stripText {text : String} {char : Char}
    (member : char ∈ (stripText text).toList) : char ∈ text.toList := by
  rw [stripText, String.toList_ofList] at member
  exact mem_of_mem_strip member

/-- Trimming from the right does not uncover a blank on the left. -/
theorem dropWhile_strip (text : List Char) : (strip text).dropWhile isBlank = strip text := by
  rw [strip_eq]
  cases trimmed : text.dropWhile isBlank with
  | nil => rfl
  | cons first rest =>
      have filled : text.dropWhile isBlank ≠ [] := by
        rw [trimmed]
        exact List.cons_ne_nil first rest
      have visible : ¬ isBlank first = true := by
        have head := List.head_dropWhile_not isBlank filled
        simpa [trimmed] using head
      obtain ⟨dropped, whole⟩ := List.rdropWhile_prefix isBlank (first :: rest)
      cases kept : (first :: rest).rdropWhile isBlank with
      | nil => rfl
      | cons other others =>
          rw [kept, List.cons_append] at whole
          injection whole with same
          rw [same, List.dropWhile_cons_of_neg visible]

theorem strip_strip (text : List Char) : strip (strip text) = strip text := by
  rw [strip_eq (strip text), dropWhile_strip, strip_eq]
  exact List.rdropWhile_idempotent isBlank (text.dropWhile isBlank)

end ForwardedClient.Text
