import Mathlib

/-!
# Words in concatenated texts

A word that occurs in the concatenation of two texts occurs in one of them,
unless it runs over the seam.  Where one side of the seam is a letter that the
word does not have, it cannot, and the search splits.
-/

namespace Lazier.Library

variable {Letter : Type} {word left right : List Letter}

/-- No letter of the word stands at the end of the text. -/
def EndsOutside (word text : List Letter) : Prop := ∀ letter ∈ text.getLast?, letter ∉ word

/-- No letter of the word stands at the start of the text. -/
def StartsOutside (word text : List Letter) : Prop := ∀ letter ∈ text.head?, letter ∉ word

instance [DecidableEq Letter] (word text : List Letter) : Decidable (EndsOutside word text) :=
  decidable_of_iff (text.getLast?.all (fun letter => decide (letter ∉ word)))
    (by simp [EndsOutside, Option.all_eq_true])

instance [DecidableEq Letter] (word text : List Letter) : Decidable (StartsOutside word text) :=
  decidable_of_iff (text.head?.all (fun letter => decide (letter ∉ word)))
    (by simp [StartsOutside, Option.all_eq_true])

/-- The search of a word splits at a seam that the word cannot run over. -/
theorem infix_append_of_seam (hseam : EndsOutside word left ∨ StartsOutside word right) :
    word <:+: left ++ right ↔ word <:+: left ∨ word <:+: right := by
  constructor
  · rw [List.infix_append_iff]
    rintro (hleft | hright | ⟨front, back, hword, hfront, hback⟩)
    · exact .inl hleft
    · exact .inr hright
    -- The word is cut into an end of the left text and a start of the right.
    rcases List.eq_nil_or_concat front with rfl | ⟨front', last, rfl⟩
    · rw [hword, List.nil_append]
      exact .inr hback.isInfix
    rcases back with _ | ⟨first, back'⟩
    · rw [hword, List.append_nil]
      exact .inl hfront.isInfix
    exfalso
    rcases hseam with hends | hstarts
    · obtain ⟨rest, rfl⟩ := hfront
      refine hends last ?_ ?_
      · simp
      · simp [hword]
    · obtain ⟨rest, rfl⟩ := hback
      refine hstarts first ?_ ?_
      · simp
      · simp [hword]
  · rintro (hleft | hright)
    · exact hleft.trans (List.infix_append' [] left right)
    · exact hright.trans (List.suffix_append left right).isInfix

theorem EndsOutside.append (hright : EndsOutside word right)
    (hne : right ≠ []) : EndsOutside word (left ++ right) := by
  intro letter hletter
  rw [List.getLast?_append_of_ne_nil _ hne] at hletter
  exact hright letter hletter

theorem StartsOutside.append (hleft : StartsOutside word left)
    (hne : left ≠ []) : StartsOutside word (left ++ right) := by
  intro letter hletter
  rw [List.head?_append_of_ne_nil _ hne] at hletter
  exact hleft letter hletter

end Lazier.Library
