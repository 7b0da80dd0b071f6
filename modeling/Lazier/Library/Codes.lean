import Mathlib

/-!
# Self-delimiting encodings

An encoding separates when the encoded value can be told from whatever follows
it.  Injective encodings of a fixed width separate, and so do lists of
separating items that start with their length.
-/

namespace Lazier.Library

open List

variable {Value Digit : Type}

/-- No encoded valid value is read as another one, whatever follows. -/
def Separates (valid : Value → Prop) (encode : Value → List Digit) : Prop :=
  ∀ left right, valid left → valid right → ∀ after behind,
    encode left ++ after = encode right ++ behind → left = right ∧ after = behind

namespace Separates

variable {valid : Value → Prop} {encode : Value → List Digit}

theorem injective (hencode : Separates valid encode) {left right : Value}
    (hleft : valid left) (hright : valid right) (heq : encode left = encode right) : left = right :=
  (hencode left right hleft hright [] [] (by rw [heq])).1

theorem of_width {width : ℕ} (hwidth : ∀ value, (encode value).length = width)
    (hinjective : ∀ left right, valid left → valid right →
      encode left = encode right → left = right) :
    Separates valid encode := by
  intro left right hleft hright after behind heq
  obtain ⟨hencoded, hafter⟩ := append_inj heq ((hwidth left).trans (hwidth right).symm)
  exact ⟨hinjective left right hleft hright hencoded, hafter⟩

theorem flatMap (hencode : Separates valid encode) {left right : List Value}
    (hlength : left.length = right.length) (hleft : ∀ value ∈ left, valid value)
    (hright : ∀ value ∈ right, valid value) {after behind : List Digit}
    (heq : left.flatMap encode ++ after = right.flatMap encode ++ behind) :
    left = right ∧ after = behind := by
  induction left generalizing right with
  | nil =>
    obtain rfl := length_eq_zero_iff.mp hlength.symm
    exact ⟨rfl, heq⟩
  | cons first rest ih =>
    cases right with
    | nil => cases hlength
    | cons other others =>
      obtain ⟨hfirst, hrest⟩ := forall_mem_cons.mp hleft
      obtain ⟨hother, hothers⟩ := forall_mem_cons.mp hright
      rw [flatMap_cons, flatMap_cons, append_assoc, append_assoc] at heq
      obtain ⟨rfl, htail⟩ := hencode first other hfirst hother _ _ heq
      obtain ⟨rfl, hafter⟩ := ih (Nat.succ.inj hlength) hrest hothers htail
      exact ⟨rfl, hafter⟩

theorem counted {count : ℕ → List Digit} {fits : ℕ → Prop}
    (hcount : Separates fits count) (hencode : Separates valid encode) : Separates
      (fun values : List Value =>
        fits values.length ∧ ∀ value ∈ values, valid value)
      (fun values => count values.length ++ values.flatMap encode) := by
  rintro left right ⟨hleft, hlefts⟩ ⟨hright, hrights⟩ after behind heq
  rw [append_assoc, append_assoc] at heq
  obtain ⟨hlength, hrest⟩ := hcount _ _ hleft hright _ _ heq
  exact hencode.flatMap hlength hlefts hrights hrest

end Separates

theorem intercalate_cons {separator first : List Digit} {rest : List (List Digit)} :
    separator.intercalate (first :: rest) = first ++ rest.flatMap (separator ++ ·) := by
  induction rest generalizing first with
  | nil => simp
  | cons second rest ih => rw [intercalate_cons_cons, ih, flatMap_cons]; simp

theorem pieces_inj [DecidableEq Digit] {separator : Digit} {left right : List (List Digit)}
    (hleft : ∀ piece ∈ left, separator ∉ piece) (hright : ∀ piece ∈ right, separator ∉ piece)
    (hne : left ≠ []) (hne' : right ≠ [])
    (heq : [separator].intercalate left = [separator].intercalate right) : left = right := by
  rw [← splitOn_intercalate separator hleft hne, heq, splitOn_intercalate separator hright hne']

end Lazier.Library
