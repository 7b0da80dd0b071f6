import Mathlib

/-!
# Majority votes

Counting rules for votes of a fixed set of voters: two majorities share a
voter, a loop over vote counts finds the leading value, and a height that a
majority has reached lies at or below the majority-th highest one.
-/

namespace Lazier.Library

open List

/-- More than half of `total`. -/
def majority (total : ℕ) : ℕ := total / 2 + 1

section Votes

variable {total : ℕ} {Voter Value : Type} [Fintype Voter]

theorem majorities_meet {left right : Finset (Fin total)} (hleft : majority total ≤ left.card)
    (hright : majority total ≤ right.card) : ∃ voter ∈ left, voter ∈ right := by
  have hunion := Finset.card_le_univ (left ∪ right)
  rw [Fintype.card_fin] at hunion
  have hsplit := Finset.card_union_add_card_inter left right
  unfold majority at hleft hright
  obtain ⟨voter, hvoter⟩ : (left ∩ right).Nonempty := by
    rw [← Finset.card_pos]
    omega
  obtain ⟨hl, hr⟩ := Finset.mem_inter.mp hvoter
  exact ⟨voter, hl, hr⟩

variable [DecidableEq Value]

/-- The voters for `value`. -/
def supporters (votes : Voter → Option Value) (value : Value) : Finset Voter :=
  Finset.univ.filter fun voter => votes voter = some value

@[simp]
theorem mem_supporters {votes : Voter → Option Value} {value : Value} {voter : Voter} :
    voter ∈ supporters votes value ↔ votes voter = some value := by
  simp [supporters]

variable {votes : Fin total → Option Value}

/-- Votes counted in any order in which every voter is asked once. -/
theorem countP_votes {order : List (Fin total)} (hcomplete : order.Perm (List.finRange total))
    (value : Value) :
    (order.filterMap votes).countP (fun vote => decide (vote = value)) =
      (supporters votes value).card := by
  rw [(hcomplete.filterMap votes).countP_eq, countP_filterMap,
    countP_eq_length_filter, ← toFinset_card_of_nodup
      ((nodup_finRange total).filter _)]
  congr 1
  ext voter
  rcases hvote : votes voter with _ | vote <;> simp [supporters, hvote]

omit [Fintype Voter] in
theorem card_le_countP {members : Finset Voter} {order : List Voter} {test : Voter → Bool}
    (hmembers : ∀ voter ∈ members, voter ∈ order ∧ test voter = true) :
    members.card ≤ order.countP test := by
  classical
  rw [countP_eq_length_filter]
  refine le_trans (Finset.card_le_card fun voter hvoter => ?_) (toFinset_card_le _)
  rw [mem_toFinset, mem_filter]
  exact hmembers voter hvoter

theorem majority_unique {left right : Value} (hleft : majority total ≤ (supporters votes left).card)
    (hright : majority total ≤ (supporters votes right).card) : left = right := by
  obtain ⟨voter, hvoter, hshared⟩ := majorities_meet hleft hright
  rw [mem_supporters] at hvoter hshared
  exact Option.some.inj (hvoter.symm.trans hshared)

/-- The two ends of a vote: a winner with a majority, or no majority. -/
def Ends {Winner : Type} (votes : Fin total → Option Value) (vote : Winner → Value)
    (won : Winner → Prop) (undecided : Prop) : Prop :=
  (∃ winner, won winner ∧ majority total ≤ (supporters votes (vote winner)).card) ∨
    undecided ∧ ∀ value, (supporters votes value).card < majority total

/-- Two counts of the same votes end alike. -/
theorem Ends.alike {Winner : Type} {vote : Winner → Value} {won won' : Winner → Prop}
    {undecided undecided' goal : Prop} (hleft : Ends votes vote won undecided)
    (hright : Ends votes vote won' undecided')
    (hwon : ∀ left right, vote left = vote right → won left → won' right → goal)
    (hopen : undecided → undecided' → goal) : goal := by
  rcases hleft with ⟨winner, hwinner, hquorum⟩ | ⟨hleft, hminority⟩
  · rcases hright with ⟨rival, hrival, hother⟩ | ⟨-, hminority⟩
    · exact hwon winner rival (majority_unique hquorum hother) hwinner hrival
    · exact absurd hquorum (hminority _).not_ge
  · rcases hright with ⟨rival, -, hquorum⟩ | ⟨hright, -⟩
    · exact absurd hquorum (hminority _).not_ge
    · exact hopen hleft hright

end Votes

variable {Value : Type}

/-- The loop that keeps the first value with the highest count so far. -/
def leading (count : Value → ℕ) (start : Value) (order : List Value) : Value × ℕ := order.foldl
    (fun best value => if best.2 < count value then (value, count value)
      else best) (start, 0)

theorem leading_append {count : Value → ℕ} {start : Value} {order : List Value} {value : Value} :
    leading count start (order ++ [value]) =
      if (leading count start order).2 < count value then
        (value, count value)
      else leading count start order := by
  rw [leading, foldl_append]
  rfl

theorem leading_count (count : Value → ℕ) (start : Value) (order : List Value) :
    (leading count start order).2 = 0 ∨
      ((leading count start order).1 ∈ order ∧ (leading count start order).2 =
          count (leading count start order).1) := by
  induction order using List.reverseRecOn with
  | nil => exact .inl rfl
  | append_singleton order value ih =>
    rw [leading_append]
    split
    · exact .inr ⟨by simp, rfl⟩
    · rcases ih with hzero | ⟨hmem, hcount⟩
      · exact .inl hzero
      · exact .inr ⟨mem_append_left _ hmem, hcount⟩

theorem count_le_leading (count : Value → ℕ) (start : Value)
    {order : List Value} {value : Value} (hvalue : value ∈ order) :
    count value ≤ (leading count start order).2 := by
  induction order using List.reverseRecOn with
  | nil => cases hvalue
  | append_singleton order last ih =>
    rw [leading_append]
    rcases mem_append.mp hvalue with hold | hlast
    · have hle := ih hold
      split
      · rename_i hless
        exact hle.trans hless.le
      · exact hle
    · rw [mem_singleton] at hlast
      subst hlast
      split
      · exact le_rfl
      · rename_i hless
        exact Nat.le_of_not_lt hless

/-- Two different values share the entries of a list. -/
theorem count_add_count_le [DecidableEq Value] {values : List Value}
    {left right : Value} (hne : left ≠ right) :
    values.count left + values.count right ≤ values.length := by
  rw [length_eq_countP_add_countP (· == left)]
  refine Nat.add_le_add_left (countP_mono_left ?_) _
  intro value _ hvalue
  rw [beq_iff_eq] at hvalue
  simp [hvalue, hne.symm]

/-- A value with more than half of the entries leads them, in whatever order
the values are visited. -/
theorem leading_of_majority [DecidableEq Value] {values order : List Value} {value : Value}
    (start : Value) (horder : ∀ other ∈ values, other ∈ order)
    (hmajority : values.length < 2 * values.count value) :
    (leading values.count start order).1 = value ∧
      values.count value ≤ (leading values.count start order).2 := by
  have hmem : value ∈ values := count_pos_iff.mp (by omega)
  have hle := count_le_leading values.count start (horder value hmem)
  refine ⟨?_, hle⟩
  rcases leading_count values.count start order with hzero | ⟨-, hcount⟩
  · omega
  · by_contra hne
    have hshare := @count_add_count_le _ _ values _ _ hne
    omega

section Tally

variable {Key Ballot : Type} [DecidableEq Key]

/-- The votes for one key, and the last ballot that carried it. -/
structure Entry (Key Ballot : Type) where
  key : Key
  votes : ℕ
  ballot : Ballot

/-- One more ballot for `key`. -/
def record (key : Key) (ballot : Ballot) : List (Entry Key Ballot) → List (Entry Key Ballot)
  | [] => [⟨key, 1, ballot⟩]
  | entry :: rest =>
    if entry.key = key then ⟨key, entry.votes + 1, ballot⟩ :: rest
    else entry :: record key ballot rest

def votesFor (key : Key) : List (Entry Key Ballot) → ℕ
  | [] => 0
  | entry :: rest => if entry.key = key then entry.votes else votesFor key rest

def totalVotes (entries : List (Entry Key Ballot)) : ℕ := (entries.map Entry.votes).sum

theorem votesFor_record {key other : Key} {ballot : Ballot} {entries : List (Entry Key Ballot)} :
    votesFor other (record key ballot entries) =
      votesFor other entries + if key = other then 1 else 0 := by
  induction entries with
  | nil => simp [record, votesFor]
  | cons entry rest ih =>
    rw [record]
    by_cases hkey : entry.key = key
    · by_cases hother : key = other <;> simp [votesFor, hkey, hother]
    · rw [if_neg hkey, votesFor, votesFor, ih]
      by_cases hother : entry.key = other
      · have hne : key ≠ other := fun heq => hkey (hother.trans heq.symm)
        simp [hother, hne]
      · simp [hother]

theorem totalVotes_record {key : Key} {ballot : Ballot} {entries : List (Entry Key Ballot)} :
    totalVotes (record key ballot entries) = totalVotes entries + 1 := by
  induction entries with
  | nil => rfl
  | cons entry rest ih =>
    rw [record]
    split
    · simp only [totalVotes, map_cons, sum_cons]
      omega
    · simp only [totalVotes, map_cons, sum_cons] at ih ⊢
      omega

variable {key : Key} {ballot : Ballot} {entries : List (Entry Key Ballot)}

theorem mem_record {entry : Entry Key Ballot} (hmem : entry ∈ record key ballot entries) :
    entry ∈ entries ∨ (entry.key = key ∧ entry.ballot = ballot) := by
  induction entries with
  | nil =>
    rw [record, mem_singleton] at hmem
    exact .inr (hmem ▸ ⟨rfl, rfl⟩)
  | cons first rest ih =>
    rw [record] at hmem
    split at hmem
    · rcases mem_cons.mp hmem with rfl | hrest
      · exact .inr ⟨rfl, rfl⟩
      · exact .inl (mem_cons_of_mem _ hrest)
    · rcases mem_cons.mp hmem with rfl | hrest
      · exact .inl mem_cons_self
      · exact (ih hrest).imp_left (mem_cons_of_mem _)

theorem mem_keys_record {other : Key} :
    other ∈ (record key ballot entries).map Entry.key ↔
      other = key ∨ other ∈ entries.map Entry.key := by
  induction entries with
  | nil => simp [record]
  | cons entry rest ih =>
    rw [record]
    split
    · rename_i hkey
      simp [hkey]
    · rw [map_cons, map_cons, mem_cons, mem_cons, ih]
      exact or_left_comm

theorem nodup_keys_record (hkeys : (entries.map Entry.key).Nodup) :
    ((record key ballot entries).map Entry.key).Nodup := by
  induction entries with
  | nil => simp [record]
  | cons entry rest ih =>
    rw [map_cons, nodup_cons] at hkeys
    rw [record]
    split
    · rename_i hkey
      rw [map_cons, nodup_cons, ← hkey]
      exact hkeys
    · rename_i hkey
      rw [map_cons, nodup_cons, mem_keys_record]
      exact ⟨not_or.mpr ⟨hkey, hkeys.1⟩, ih hkeys.2⟩

end Tally

section Ranking

variable {Height : Type} [LinearOrder Height]

/-- Consecutive repetitions dropped; `last` is the value kept before. -/
def distinctRuns (last : Option Height) : List Height → List Height
  | [] => []
  | height :: rest =>
    if last = some height then distinctRuns last rest
    else height :: distinctRuns (some height) rest

theorem distinctRuns_sublist {last : Option Height} (heights : List Height) :
    (distinctRuns last heights).Sublist heights := by
  induction heights generalizing last with
  | nil => exact .slnil
  | cons height rest ih =>
    rw [distinctRuns]
    split
    · exact ih.cons height
    · exact ih.cons_cons height

variable {last : Option Height} {heights : List Height} {height : Height}

theorem mem_distinctRuns (hmem : height ∈ heights) :
    height ∈ distinctRuns last heights ∨ last = some height := by
  induction heights generalizing last with
  | nil => cases hmem
  | cons head rest ih =>
    rw [distinctRuns]
    split
    · rename_i hlast
      rcases mem_cons.mp hmem with rfl | hrest
      · exact .inr hlast
      · exact ih hrest
    · rcases mem_cons.mp hmem with rfl | hrest
      · exact .inl mem_cons_self
      · have hcases : height ∈ distinctRuns (some head) rest ∨ some head = some height := ih hrest
        rcases hcases with hkept | heq
        · exact .inl (mem_cons_of_mem _ hkept)
        · rw [Option.some.injEq] at heq
          exact .inl (heq ▸ mem_cons_self)

/-- Without repetitions a descending list falls strictly, from below the value
kept before. -/
theorem distinctRuns_strict
    (hsorted : heights.Pairwise (· ≥ ·)) (hlast : ∀ height ∈ heights, ∀ top ∈ last, height ≤ top) :
    (distinctRuns last heights).Pairwise (· > ·) ∧
      ∀ height ∈ distinctRuns last heights, ∀ top ∈ last, height < top := by
  induction heights generalizing last with
  | nil => exact ⟨.nil, forall_mem_nil _⟩
  | cons first rest ih =>
    obtain ⟨hfirst, hrest⟩ := pairwise_cons.mp hsorted
    rw [distinctRuns]
    split
    · exact ih hrest fun height hheight =>
        hlast height (mem_cons_of_mem _ hheight)
    · rename_i hne
      obtain ⟨hpairwise, hbelow⟩ := @ih (some first) hrest (by
        rintro height hheight top ⟨⟩
        exact hfirst height hheight)
      have htop : ∀ top ∈ last, first < top := by
        intro top htop
        refine lt_of_le_of_ne (hlast first mem_cons_self top htop) ?_
        rintro rfl
        exact hne htop
      refine ⟨pairwise_cons.mpr ⟨fun height hheight =>
        hbelow height hheight first rfl, hpairwise⟩, ?_⟩
      intro height hheight top hmem
      rcases mem_cons.mp hheight with rfl | hlater
      · exact htop top hmem
      · exact (hbelow height hlater first rfl).trans (htop top hmem)

/-- In a descending list, a value that `rank` entries reach is among the
entries from the `rank`-th on. -/
theorem mem_drop_of_rank {rank : ℕ} (hsorted : heights.Pairwise (· ≥ ·)) (hmem : height ∈ heights)
    (hrank : rank < heights.countP (height ≤ ·)) : height ∈ heights.drop rank := by
  by_contra habsent
  have hsplit := take_append_drop rank heights
  rw [← hsplit, pairwise_append] at hsorted
  obtain ⟨-, -, hcross⟩ := hsorted
  have htake : height ∈ heights.take rank := by
    rw [← hsplit] at hmem
    exact (mem_append.mp hmem).resolve_right habsent
  -- Every entry from the rank on is below the height.
  have hbelow : (heights.drop rank).countP (height ≤ ·) = 0 := by
    rw [countP_eq_zero]
    intro other hother
    have hle : other ≤ height := hcross height htake other hother
    have hne : other ≠ height := by
      rintro rfl
      exact habsent hother
    simpa using lt_of_le_of_ne hle hne
  have hcount : heights.countP (height ≤ ·) ≤ rank := by
    rw [← hsplit, countP_append, hbelow, Nat.add_zero]
    exact countP_le_length.trans (length_take_le rank heights)
  omega

/-- In a descending list, the entries from the `rank`-th on are at most the
`rank`-th. -/
theorem le_rank_of_mem_drop
    {rank : ℕ} (hsorted : heights.Pairwise (· ≥ ·)) (hmem : height ∈ heights.drop rank) :
    ∃ top, heights[rank]? = some top ∧ height ≤ top := by
  have hdrop := hsorted.sublist (drop_sublist rank heights)
  have hfirst : (heights.drop rank)[0]? = heights[rank]? := by
    rw [List.getElem?_drop, Nat.add_zero]
  cases hheights : heights.drop rank with
  | nil =>
    rw [hheights] at hmem
    cases hmem
  | cons top rest =>
    rw [hheights] at hmem hdrop hfirst
    refine ⟨top, hfirst.symm, ?_⟩
    rcases mem_cons.mp hmem with rfl | hrest
    · exact le_rfl
    · exact (pairwise_cons.mp hdrop).1 height hrest

end Ranking

end Lazier.Library
