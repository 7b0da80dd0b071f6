import Mathlib

/-!
# Chains of blocks with account nonces

A chain is a list of blocks, the oldest first, and a block is a list of
transactions.  An account's transactions carry the nonces 0, 1, 2 and so on in
the order in which they stand, so that a nonce is consumed at most once and the
account nonce at a height says exactly which nonces are.  A later view of the
chain may replace blocks, but none at or below its confirmed height.
-/

namespace Lazier.Library

open List

/-- A transaction on a chain; the ones that nobody asks about have no id. -/
structure ChainTx (Account Id : Type) where
  account : Account
  nonce : ℕ
  id : Option Id
  deriving DecidableEq

abbrev Chain (Account Id : Type) := List (List (ChainTx Account Id))

namespace Chain

variable {Account Id : Type}

/-- The number of the newest block. -/
def head (chain : Chain Account Id) : ℕ := chain.length - 1

/-- The newest block that `depth` later ones confirm, or the oldest block. -/
def confirmed (depth : ℕ) (chain : Chain Account Id) : ℕ := chain.head - depth

/-- The transactions at or below a height. -/
def upTo (chain : Chain Account Id) (height : ℕ) : List (ChainTx Account Id) :=
  (chain.take (height + 1)).flatten

/-- A later view of the chain. -/
structure Follows (depth : ℕ) (old new : Chain Account Id) : Prop where
  grown : old.length ≤ new.length
  kept : new.take (old.confirmed depth + 1) = old.take (old.confirmed depth + 1)

variable {depth height : ℕ} {old new : Chain Account Id}

theorem Follows.confirmed_le (hfollows : Follows depth old new) :
    old.confirmed depth ≤ new.confirmed depth :=
  Nat.sub_le_sub_right (Nat.sub_le_sub_right hfollows.grown 1) depth

theorem Follows.take (hfollows : Follows depth old new) (hheight : height ≤ old.confirmed depth) :
    new.take (height + 1) = old.take (height + 1) := by
  have hmin : min (height + 1) (old.confirmed depth + 1) = height + 1 :=
    min_eq_left (Nat.succ_le_succ hheight)
  have hshort := congrArg (List.take (height + 1)) hfollows.kept
  rwa [take_take, take_take, hmin] at hshort

theorem Follows.upTo_eq (hfollows : Follows depth old new)
    (hheight : height ≤ old.confirmed depth) : new.upTo height = old.upTo height := by
  rw [upTo, upTo, hfollows.take hheight]

theorem mem_of_mem_upTo {chain : Chain Account Id}
    {tx : ChainTx Account Id} (htx : tx ∈ chain.upTo height) : tx ∈ chain.flatten := by
  obtain ⟨block, hblock, hmem⟩ := mem_flatten.mp htx
  exact mem_flatten.mpr ⟨block, mem_of_mem_take hblock, hmem⟩

section Nonces

variable {Account Id : Type} [DecidableEq Account]

/-- The transactions of one account. -/
def sentBy (account : Account) (txs : List (ChainTx Account Id)) : List (ChainTx Account Id) :=
  txs.filter fun tx => tx.account = account

/-- The account nonce at a height. -/
def nonceAt (chain : Chain Account Id) (account : Account) (height : ℕ) : ℕ :=
  (sentBy account (chain.upTo height)).length

/-- Every account's nonces stand in their order, and no transaction twice. -/
structure Valid (chain : Chain Account Id) : Prop where
  ordered : ∀ tx ∈ chain.flatten, (sentBy tx.account chain.flatten).map ChainTx.nonce =
      List.range (sentBy tx.account chain.flatten).length
  once : (chain.flatten.filterMap ChainTx.id).Nodup

variable {chain : Chain Account Id} {account : Account} {height nonce : ℕ}

theorem Valid.nonces (hvalid : chain.Valid) (account : Account) :
    (sentBy account chain.flatten).map ChainTx.nonce =
      List.range (sentBy account chain.flatten).length := by
  rcases hsent : sentBy account chain.flatten with _ | ⟨tx, rest⟩
  · rfl
  · have hmem : tx ∈ sentBy account chain.flatten := by
      rw [hsent]
      exact mem_cons_self
    obtain ⟨htx, haccount⟩ := mem_filter.mp hmem
    rw [← hsent, ← of_decide_eq_true haccount]
    exact hvalid.ordered tx htx

theorem Valid.consumed (hvalid : chain.Valid) (hnonce : nonce < chain.nonceAt account height) :
    ∃ tx ∈ chain.upTo height, tx.account = account ∧ tx.nonce = nonce := by
  have hsplit : sentBy account chain.flatten = sentBy account (chain.upTo height) ++
        sentBy account (chain.drop (height + 1)).flatten := by
    rw [sentBy, sentBy, sentBy, ← filter_append, upTo, ← flatten_append, take_append_drop]
  have hlower : (sentBy account (chain.upTo height)).map ChainTx.nonce =
      List.range (chain.nonceAt account height) := by
    have hall := congrArg (List.take (chain.nonceAt account height)) (hvalid.nonces account)
    rw [hsplit, map_append, take_append_of_le_length
      (by rw [length_map]; exact le_rfl), take_of_length_le
      (by rw [length_map]; exact le_rfl), take_range,
      min_eq_left (by rw [length_append]; exact Nat.le_add_right _ _)] at hall
    exact hall
  have hmem : nonce ∈ (sentBy account (chain.upTo height)).map
      ChainTx.nonce := by
    rw [hlower]
    exact mem_range.mpr hnonce
  obtain ⟨tx, htx, hsame⟩ := mem_map.mp hmem
  obtain ⟨hupTo, haccount⟩ := mem_filter.mp htx
  exact ⟨tx, hupTo, of_decide_eq_true haccount, hsame⟩

theorem Valid.unique (hvalid : chain.Valid) {left right : ChainTx Account Id}
    (hleft : left ∈ chain.flatten) (hright : right ∈ chain.flatten)
    (haccount : left.account = right.account)
    (hnonce : left.nonce = right.nonce) : left = right := by
  have hnodup : ((sentBy right.account chain.flatten).map ChainTx.nonce).Nodup := by
    rw [hvalid.nonces]
    exact nodup_range
  exact inj_on_of_nodup_map hnodup (mem_filter.mpr ⟨hleft, decide_eq_true haccount⟩)
    (mem_filter.mpr ⟨hright, decide_eq_true rfl⟩) hnonce

end Nonces

section Inclusion

variable {Account Id : Type} [DecidableEq Id]

/-- The block at a height holds the transaction. -/
def includes (chain : Chain Account Id) (height : ℕ) (id : Id) : Bool :=
  (chain.getD height []).any fun tx => tx.id = some id

variable {chain old new : Chain Account Id} {depth height : ℕ} {id : Id}

theorem includes_eq_true : chain.includes height id = true ↔ ∃ block, chain[height]? = some block ∧
        id ∈ block.filterMap ChainTx.id := by
  rw [includes, getD_eq_getElem?_getD, any_eq_true]
  rcases hblock : chain[height]? with _ | block <;> simp

theorem exists_includes_of_mem_upTo {tx : ChainTx Account Id}
    (htx : tx ∈ chain.upTo height) (hid : tx.id = some id) :
    ∃ lower ≤ height, chain.includes lower id = true := by
  obtain ⟨block, hblock, hmem⟩ := mem_flatten.mp htx
  obtain ⟨lower, hlower⟩ := mem_iff_getElem?.mp hblock
  rw [List.getElem?_take] at hlower
  obtain ⟨hlt, hget⟩ := Option.ite_none_right_eq_some.mp hlower
  exact ⟨lower, Nat.lt_succ_iff.mp hlt, includes_eq_true.mpr
    ⟨block, hget, mem_filterMap.mpr ⟨tx, hmem, hid⟩⟩⟩

theorem Follows.includes_eq (hfollows : Follows depth old new)
    (hheight : height ≤ old.confirmed depth) : new.includes height id = old.includes height id := by
  have hget := congrArg (fun blocks => blocks[height]?) (hfollows.take hheight)
  simp only [List.getElem?_take, Nat.lt_succ_self, if_true] at hget
  rw [includes, includes, getD_eq_getElem?_getD, getD_eq_getElem?_getD, hget]

theorem Valid.includes_unique [DecidableEq Account] (hvalid : chain.Valid)
    {lower upper : ℕ} (hlower : chain.includes lower id = true)
    (hupper : chain.includes upper id = true) : lower = upper := by
  obtain ⟨left, hleft, hmemLeft⟩ := includes_eq_true.mp hlower
  obtain ⟨right, hright, hmemRight⟩ := includes_eq_true.mp hupper
  have hnodup := hvalid.once
  rw [filterMap_flatten, nodup_flatten] at hnodup
  have hapart := hnodup.2
  rw [pairwise_map, pairwise_iff_getElem] at hapart
  obtain ⟨hleftLt, rfl⟩ := List.getElem?_eq_some_iff.mp hleft
  obtain ⟨hrightLt, rfl⟩ := List.getElem?_eq_some_iff.mp hright
  rcases Nat.lt_trichotomy lower upper with hlt | rfl | hlt
  · exact absurd hmemRight (hapart lower upper hleftLt hrightLt hlt hmemLeft)
  · rfl
  · exact absurd hmemLeft (hapart upper lower hrightLt hleftLt hlt hmemRight)

end Inclusion

end Chain

end Lazier.Library
