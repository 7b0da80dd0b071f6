import Lazier.Ledger.Preservation

/-!
# What the ledger never takes back

Rows keep their lane and, once they have one, their nonce and their pinned
receipt.  Attempts keep what was signed.  Cursors never move down.  These facts
form a preorder on sound ledgers, so one check for each change gives them for
any two states of a run.
-/

namespace Lazier.Ledger

open Library Store SerialTable

/-- The later state of a row. -/
structure RowExtends (old new : OutboxRow) : Prop where
  id : new.id = old.id
  lane : new.lane = old.lane
  nonce : old.nonce ≠ none → new.nonce = old.nonce
  receipt : old.receipt ≠ none → new.receipt = old.receipt
  ended : old.nonce ≠ none → old.status.terminal = true → new.status.terminal = true
  canceled : old.nonce ≠ none → old.cancelRequestedAt ≠ none →
    new.cancelRequestedAt ≠ none ∨ new.status.terminal = true

theorem RowExtends.refl (row : OutboxRow) : RowExtends row row :=
  ⟨rfl, rfl, fun _ => rfl, fun _ => rfl, fun _ hended => hended, fun _ hcanceled => .inl hcanceled⟩

theorem RowExtends.trans {first second third : OutboxRow} (hleft : RowExtends first second)
    (hright : RowExtends second third) :
    RowExtends first third := by
  have hheld : first.nonce ≠ none → second.nonce ≠ none := by
    intro hnonce
    rw [hleft.nonce hnonce]
    exact hnonce
  refine ⟨hright.id.trans hleft.id, hright.lane.trans hleft.lane, ?_, ?_, ?_, ?_⟩
  · intro hnonce
    exact (hright.nonce (hheld hnonce)).trans (hleft.nonce hnonce)
  · intro hpinned
    have hsame := hleft.receipt hpinned
    exact (hright.receipt (hsame ▸ hpinned)).trans hsame
  · intro hnonce hended
    exact hright.ended (hheld hnonce) (hleft.ended hnonce hended)
  · intro hnonce hcanceled
    rcases hleft.canceled hnonce hcanceled with hstill | hended
    · exact hright.canceled (hheld hnonce) hstill
    · exact .inr (hright.ended (hheld hnonce) hended)

/-- The later state of an attempt: what was signed stays. -/
structure AttemptExtends (old new : AttemptRow) : Prop extends AttemptStep old new where
  kind : new.kind = old.kind
  nonce : new.nonce = old.nonce
  txType : new.txType = old.txType
  txHash : new.txHash = old.txHash
  rawTx : new.rawTx = old.rawTx
  gasLimit : new.gasLimit = old.gasLimit
  maxFeePerGas : new.maxFeePerGas = old.maxFeePerGas
  maxPriorityFeePerGas : new.maxPriorityFeePerGas = old.maxPriorityFeePerGas

theorem AttemptExtends.of_same_content {old new : AttemptRow} (hstep : AttemptStep old new)
    (hcontent : { new with
      state := old.state
      sendErrorClass := old.sendErrorClass
      sendError := old.sendError
      broadcastCount := old.broadcastCount
      broadcastLease := old.broadcastLease
      nextBroadcastAt := old.nextBroadcastAt
      lastBroadcastAt := old.lastBroadcastAt } = old) :
    AttemptExtends old new := by
  cases old
  cases new
  simp only [AttemptRow.mk.injEq] at hcontent
  refine ⟨hstep, ?_, ?_, ?_, ?_, ?_, ?_, ?_, ?_⟩ <;> simp [hcontent]

theorem AttemptExtends.refl (attempt : AttemptRow) : AttemptExtends attempt attempt :=
  .of_same_content (.refl attempt) rfl

theorem AttemptExtends.trans {first second third : AttemptRow} (hleft : AttemptExtends first second)
    (hright : AttemptExtends second third) : AttemptExtends first third where
  id := hright.id.trans hleft.id
  owner := hright.owner.trans hleft.owner
  count := hleft.count.trans hright.count
  mined hmined := hright.mined (hleft.mined hmined)
  kind := hright.kind.trans hleft.kind
  nonce := hright.nonce.trans hleft.nonce
  txType := hright.txType.trans hleft.txType
  txHash := hright.txHash.trans hleft.txHash
  rawTx := hright.rawTx.trans hleft.rawTx
  gasLimit := hright.gasLimit.trans hleft.gasLimit
  maxFeePerGas := hright.maxFeePerGas.trans hleft.maxFeePerGas
  maxPriorityFeePerGas := hright.maxPriorityFeePerGas.trans hleft.maxPriorityFeePerGas

/-- `new` is a later state of the ledger `old`. -/
structure Extends (old new : TxTables) : Prop where
  rows : ∀ row ∈ old.outbox, ∃ after ∈ new.outbox, RowExtends row after
  attempts : ∀ attempt ∈ old.attempts, ∃ after ∈ new.attempts, AttemptExtends attempt after
  cursors : ∀ cursor ∈ old.cursors, ∃ after ∈ new.cursors,
    after.lane = cursor.lane ∧ cursor.nextNonce ≤ after.nextNonce

theorem Extends.refl (tx : TxTables) : Extends tx tx where
  rows row hrow := ⟨row, hrow, .refl row⟩
  attempts attempt hattempt := ⟨attempt, hattempt, .refl attempt⟩
  cursors cursor hcursor := ⟨cursor, hcursor, rfl, le_rfl⟩

theorem Extends.trans {first second third : TxTables} (hleft : Extends first second)
    (hright : Extends second third) : Extends first third where
  rows row hrow := by
    obtain ⟨middle, hmiddle, hextends⟩ := hleft.rows row hrow
    obtain ⟨after, hafter, hextends'⟩ := hright.rows middle hmiddle
    exact ⟨after, hafter, hextends.trans hextends'⟩
  attempts attempt hattempt := by
    obtain ⟨middle, hmiddle, hextends⟩ := hleft.attempts attempt hattempt
    obtain ⟨after, hafter, hextends'⟩ := hright.attempts middle hmiddle
    exact ⟨after, hafter, hextends.trans hextends'⟩
  cursors cursor hcursor := by
    obtain ⟨middle, hmiddle, hlane, hle⟩ := hleft.cursors cursor hcursor
    obtain ⟨after, hafter, hlane', hle'⟩ := hright.cursors middle hmiddle
    exact ⟨after, hafter, hlane'.trans hlane, hle.trans hle'⟩

variable {tx : TxTables}

theorem extends_setRow {old new : OutboxRow} (hold : old ∈ tx.outbox) (hrow : RowExtends old new) :
    Extends tx (tx.setRow new) where
  rows := forth_set RowExtends.refl hold hrow.id hrow
  attempts := (Extends.refl tx).attempts
  cursors := (Extends.refl tx).cursors

theorem extends_setAttempt {old new : AttemptRow} (hold : old ∈ tx.attempts)
    (hattempt : AttemptExtends old new) : Extends tx (tx.setAttempt new) where
  rows := (Extends.refl tx).rows
  attempts := forth_set AttemptExtends.refl hold hattempt.id hattempt
  cursors := (Extends.refl tx).cursors

theorem extends_setCursor {old new : NonceCursor} (hold : old ∈ tx.cursors)
    (hlane : new.lane = old.lane) (hnext : old.nextNonce ≤ new.nextNonce) :
    Extends tx (tx.setCursor new) where
  rows := (Extends.refl tx).rows
  attempts := (Extends.refl tx).attempts
  cursors := cursors_forth hold hlane hnext

theorem extends_addAttempt {attempt : AttemptRow} (hid : attempt.id = tx.attempts.next) :
    Extends tx (tx.addAttempt attempt hid) where
  rows := (Extends.refl tx).rows
  attempts old hold := ⟨old, mem_append_of_mem hid hold, .refl old⟩
  cursors := (Extends.refl tx).cursors

theorem RowExtends.edit (hsound : Sound tx) {old new : OutboxRow} (hold : old ∈ tx.outbox)
    (hedit : RowEdit tx old new) : RowExtends old new where
  id := hedit.task.id
  lane := hedit.task.lane
  nonce _ := hedit.task.nonce
  receipt _ := hedit.receipt
  ended hheld hended := (RowStep.edit hsound hold hedit).ended hended hheld
  canceled _ hcanceled := .inl (hedit.cancel ▸ hcanceled)

theorem extends_change {before after : TxTables} {action : Action} (hsound : Sound before)
    (hchange : Change before action after) :
    Extends before after := by
  cases hchange with
  | enqueue hid fresh =>
    exact
      { rows := fun row hrow =>
          ⟨row, mem_append_of_mem hid hrow, .refl row⟩
        attempts := (Extends.refl before).attempts
        cursors := (Extends.refl before).cursors }
  | bootstrap absent above =>
    exact
      { rows := (Extends.refl before).rows
        attempts := (Extends.refl before).attempts
        cursors := fun cursor hcursor =>
          ⟨cursor, (Table.mem_insertNew absent).mpr (.inl hcursor), rfl, le_rfl⟩ }
  | @assign row cursor lease now hrow hcursor hlane queued bare unpinned uncanceled clear =>
    have hsame : cursor ∈ (before.setRow
        { row with
          nonce := some cursor.nextNonce
          status := .nonceAssigned
          lease := some lease
          updatedAt := now }).cursors := hcursor
    refine (extends_setRow hrow ?_).trans (extends_setCursor hsame ?_ ?_)
    · exact ⟨rfl, rfl, fun hheld => absurd bare hheld, fun _ => rfl,
        fun hheld => absurd bare hheld, fun hheld => absurd bare hheld⟩
    · rfl
    · exact Nat.le_succ _
  | edit hkey hedit =>
    exact
      { rows := fun row hrow =>
          ⟨_, mem_mapRows.mpr ⟨row, hrow, rfl⟩, .edit hsound hrow (hedit row hrow)⟩
        attempts := (Extends.refl before).attempts
        cursors := (Extends.refl before).cursors }
  | lease use lease now hrow guarded =>
    exact extends_setRow hrow ⟨rfl, rfl, fun _ => rfl, fun _ => rfl,
      fun _ hended => hended, fun _ hcanceled => .inl hcanceled⟩
  | resume lease now hrow queued held uncanceled =>
    exact absurd ((hsound.rows _ hrow).queued queued) held
  | cancel hold guarded =>
    exact extends_setRow hold ⟨guarded.task.id, guarded.task.lane,
      fun _ => guarded.task.nonce, fun _ => guarded.receipt,
      fun _ hended => guarded.status ▸ hended, fun _ _ => .inl guarded.intent⟩
  | insert hold hid guarded =>
    refine (extends_addAttempt hid).trans (extends_setRow hold
      ⟨guarded.task.id, guarded.task.lane, fun _ => guarded.task.nonce,
        fun _ => guarded.receipt, ?_, ?_⟩)
    · intro _ hended
      rw [guarded.live] at hended
      cases hended
    · rw [guarded.cancel]
      exact fun _ hcanceled => .inl hcanceled
  | claim hrow hattempt guarded =>
    refine extends_setAttempt hattempt (.of_same_content ⟨rfl, rfl, Nat.le_succ _, ?_⟩ rfl)
    intro hmined
    rcases guarded.state with hstate | hstate <;> simp [hstate] at hmined
  | @report attempt sendClass sendErr hattempt leased =>
    refine extends_setAttempt hattempt (.of_same_content ⟨rfl, rfl, le_rfl, ?_⟩ rfl)
    intro hmined
    rcases sendResult_state attempt sendClass sendErr with hsame | ⟨hne, -⟩
    · exact hsame.trans hmined
    · exact absurd hmined hne
  | pin hrow hattempt owner unpinned live =>
    exact extends_setRow hrow ⟨rfl, rfl, fun _ => rfl,
      fun hpinned => absurd unpinned hpinned, fun _ hended => hended,
      fun _ hcanceled => .inl hcanceled⟩
  | @finalize row attempt outcome now clock facts hrow hattempt owner pinned =>
    have hterminal := finalStatus_terminal outcome
    have hmined : AttemptExtends attempt { attempt with state := .mined } :=
      .of_same_content ⟨rfl, rfl, le_rfl, fun _ => rfl⟩ rfl
    refine (extends_setAttempt hattempt hmined).trans ?_
    exact extends_setRow hrow ⟨rfl, rfl, fun _ => rfl, fun _ => rfl,
      fun _ _ => hterminal, fun _ _ => .inr hterminal⟩
  | consume hrow held unpinned =>
    exact extends_setRow hrow ⟨rfl, rfl, fun _ => rfl, fun _ => rfl,
      fun _ _ => rfl, fun _ _ => .inr rfl⟩
  | forward new hold lane ahead => exact extends_setCursor hold lane ahead.le
  | schedule new hold lane next => exact extends_setCursor hold lane next.ge

theorem extends_run {start final : TxTables} {actions : List (Event TxTables Action)}
    (hsound : Sound start) (hrun : Run Change start actions final) : Extends start final :=
  hrun.monotone Extends Extends.refl (fun _ _ _ => Extends.trans) Sound
    (fun _ _ _ => sound_change) (fun _ _ _ => extends_change) hsound

end Lazier.Ledger
