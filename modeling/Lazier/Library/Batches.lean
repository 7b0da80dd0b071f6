import Mathlib

/-!
# Batches from the front of a queue

A pass looks at the first items of a queue, serves those it can and leaves the
others where they are.  The items it cannot serve are never removed, so they
use up the batch for everything behind them.
-/

namespace Lazier.Library

open List

variable {Item : Type} {limit : ℕ} {queue : List Item}

/-- One pass over the first `limit` items. -/
def serve (good : Item → Bool) (limit : ℕ) (queue : List Item) : List Item :=
  (queue.take limit).filter (!good ·) ++ queue.drop limit

/-- Some good item stands behind a whole batch of others. -/
def Blocked (good : Item → Bool) (limit : ℕ) (queue : List Item) : Prop :=
  ∃ front item rest, queue = front ++ item :: rest ∧ good item = true ∧
    limit ≤ front.countP (!good ·)

variable {good : Item → Bool}

theorem mem_of_mem_serve {item : Item} (hitem : item ∈ serve good limit queue) : item ∈ queue := by
  rcases mem_append.mp hitem with hkept | hbehind
  · exact mem_of_mem_take (mem_of_mem_filter hkept)
  · exact mem_of_mem_drop hbehind

theorem Blocked.serve (hblocked : Blocked good limit queue) :
    Blocked good limit (serve good limit queue) := by
  obtain ⟨front, item, rest, rfl, hgood, hcount⟩ := hblocked
  have hlength := hcount.trans countP_le_length
  refine ⟨(front.take limit).filter (!good ·) ++ front.drop limit, item, rest, ?_, hgood, ?_⟩
  · rw [Library.serve, take_append_of_le_length hlength,
      drop_append_of_le_length hlength, append_assoc]
  · rw [countP_append, countP_filter]
    simp only [Bool.and_self]
    rwa [← countP_append, take_append_drop]

theorem blocked_of_serve (hblocked : Blocked good limit (serve good limit queue)) :
    Blocked good limit queue := by
  obtain ⟨front, item, rest, heq, hgood, hcount⟩ := hblocked
  rw [serve] at heq
  -- The item is behind the batch, as what is left of the batch is not good.
  obtain ⟨skipped, rfl, hdrop⟩ : ∃ skipped, front = (queue.take limit).filter (!good ·) ++ skipped ∧
      queue.drop limit = skipped ++ item :: rest := by
    rcases append_eq_append_iff.mp heq with hbehind | ⟨_ | ⟨first, others⟩, hkept, hrest⟩
    · exact hbehind
    · exact ⟨[], by simpa using hkept.symm, hrest.symm⟩
    · have hmem : item ∈ (queue.take limit).filter (!good ·) := by
        rw [hkept, (List.cons.inj hrest).1]
        simp
      simp [hgood] at hmem
  refine ⟨queue.take limit ++ skipped, item, rest, ?_, hgood, ?_⟩
  · rw [append_assoc, ← hdrop, take_append_drop]
  · rw [countP_append, countP_filter] at hcount
    simpa only [countP_append, Bool.and_self] using hcount

theorem length_serve_lt (hfree : ¬ Blocked good limit queue) {wanted : Item}
    (hwanted : wanted ∈ queue) (hgood : good wanted = true) :
    (serve good limit queue).length < queue.length := by
  obtain ⟨item, front, rest, hnone, hitem, rfl, -⟩ := exists_of_eraseP hwanted hgood
  have hfront : front.length < limit := by
    by_contra hlimit
    refine hfree ⟨front, item, rest, rfl, hitem, ?_⟩
    rw [countP_eq_length.mpr fun other hother => by simpa using hnone other hother]
    exact Nat.not_lt.mp hlimit
  have hmem : item ∈ (front ++ item :: rest).take limit := by
    rw [take_append, ← Nat.succ_pred_eq_of_pos (Nat.sub_pos_of_lt hfront)]
    simp
  have hserved : (((front ++ item :: rest).take limit).filter (!good ·)).length <
      ((front ++ item :: rest).take limit).length :=
    length_filter_lt_length_iff_exists.mpr ⟨item, hmem, by simp [hitem]⟩
  rw [serve, length_append]
  refine (Nat.add_lt_add_right hserved _).trans_eq ?_
  rw [← length_append, take_append_drop]

/-- The good items are all served at some time exactly if none is blocked. -/
theorem served_iff : (∃ passes, ∀ item ∈ (serve good limit)^[passes] queue, good item = false) ↔
    ¬ Blocked good limit queue := by
  constructor
  · rintro ⟨passes, hserved⟩ hblocked
    have hstill : Blocked good limit ((serve good limit)^[passes] queue) := by
      clear hserved
      induction passes with
      | zero => exact hblocked
      | succ passes ih =>
        rw [Function.iterate_succ_apply']
        exact ih.serve
    obtain ⟨front, item, rest, heq, hgood, -⟩ := hstill
    rw [hserved item (by simp [heq])] at hgood
    cases hgood
  · intro hfree
    -- Every pass that leaves a good item shortens the queue.
    induction hlength : queue.length using Nat.strong_induction_on generalizing queue with
    | _ length ih =>
      by_cases hgood : ∃ item ∈ queue, good item = true
      · obtain ⟨item, hitem, hgood⟩ := hgood
        obtain ⟨passes, hserved⟩ := ih _ (hlength ▸ length_serve_lt hfree hitem hgood)
          (fun hblocked => hfree (blocked_of_serve hblocked)) rfl
        exact ⟨passes + 1, hserved⟩
      · push Not at hgood
        exact ⟨0, fun item hitem => Bool.eq_false_iff.mpr (hgood item hitem)⟩

end Lazier.Library
