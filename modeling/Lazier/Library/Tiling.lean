import Mathlib

/-!
# Tilings of intervals

A list of closed spans tiles an interval of numbers when the first one starts
at its beginning, each next one starts right behind its predecessor, and the
last one ends at its end.
-/

namespace Lazier.Library

/-- The spans tile the interval from `first` to `last`, both included. -/
inductive Tiles : ℕ → List (ℕ × ℕ) → ℕ → Prop
  | whole {first last : ℕ} (hle : first ≤ last) : Tiles first [(first, last)] last
  | next {first cut last : ℕ} {spans : List (ℕ × ℕ)} (hle : first ≤ cut)
      (rest : Tiles (cut + 1) spans last) : Tiles first ((first, cut) :: spans) last

namespace Tiles

variable {first last : ℕ} {spans : List (ℕ × ℕ)}

theorem le (htiles : Tiles first spans last) : first ≤ last := by
  induction htiles with
  | whole hle => exact hle
  | next hle rest ih => omega

theorem span_le (htiles : Tiles first spans last) :
    ∀ span ∈ spans, first ≤ span.1 ∧ span.1 ≤ span.2 ∧ span.2 ≤ last := by
  induction htiles with
  | whole hle => simpa using hle
  | next hle rest ih =>
    intro span hspan
    rcases List.mem_cons.mp hspan with rfl | hspan
    · have hrest := rest.le
      exact ⟨le_rfl, hle, by dsimp only; omega⟩
    · obtain ⟨hfirst, hspan, hlast⟩ := ih span hspan
      exact ⟨by omega, hspan, hlast⟩

theorem existsUnique (htiles : Tiles first spans last) {number : ℕ}
    (hfirst : first ≤ number) (hlast : number ≤ last) :
    ∃! span, span ∈ spans ∧ span.1 ≤ number ∧ number ≤ span.2 := by
  induction htiles with
  | whole hle =>
    refine ⟨_, ⟨List.mem_singleton_self _, hfirst, hlast⟩, ?_⟩
    rintro span ⟨hspan, -, -⟩
    exact List.mem_singleton.mp hspan
  | @next first cut last spans hle rest ih =>
    by_cases hcut : number ≤ cut
    · refine ⟨(first, cut), ⟨List.mem_cons_self .., hfirst, hcut⟩, ?_⟩
      rintro span ⟨hspan, hlow, -⟩
      rcases List.mem_cons.mp hspan with rfl | hspan
      · rfl
      · have hlater := (rest.span_le span hspan).1
        omega
    · obtain ⟨span, ⟨hspan, hlow, hhigh⟩, hunique⟩ := ih (by omega) hlast
      refine ⟨span, ⟨List.mem_cons_of_mem _ hspan, hlow, hhigh⟩, ?_⟩
      rintro other ⟨hother, hlow', hhigh'⟩
      rcases List.mem_cons.mp hother with rfl | hother
      · exact absurd hhigh' hcut
      · exact hunique other ⟨hother, hlow', hhigh'⟩

end Tiles

end Lazier.Library
