import Lazier.Ledger.Extension

/-!
# Where the contents of a ledger come from

Read backwards, a change explains each nonce, attempt, claim and cursor of the
ledger it leaves.  Over a run this finds the action behind every one of them.
-/

namespace Lazier.Ledger

open Library Store SerialTable List

variable {before after final start : TxTables} {action : Action} {attempt : AttemptRow}
  {history : List (Event TxTables Action)} {row : OutboxRow} {cursor : NonceCursor}
  {actions : List (Event TxTables Action)} {lease : Lease} {lane : Lane} {nonce : ℕ}

/-! ## Attempts and their claims -/

/-- Where an attempt of the new ledger was before. -/
inductive AttemptOrigin (before : TxTables) (action : Action) (attempt : AttemptRow) : Prop
  | kept (old : AttemptRow) (hold : old ∈ before.attempts)
      (id : old.id = attempt.id) (owner : old.outboxID = attempt.outboxID)
      (kind : old.kind = attempt.kind)
      (count : attempt.broadcastCount = old.broadcastCount ∨ action = .claim attempt.id)
  | inserted (use : LeaseUse) (token : UUID) (haction : action = .insert attempt use token)
      (unsent : attempt.broadcastCount = 0)

theorem AttemptOrigin.same (hmem : attempt ∈ before.attempts) :
    AttemptOrigin before action attempt :=
  .kept attempt hmem rfl rfl rfl (.inl rfl)

theorem AttemptOrigin.set {old new : AttemptRow} (hold : old ∈ before.attempts)
    (hmem : attempt ∈ before.attempts.set new) (hid : new.id = old.id)
    (howner : new.outboxID = old.outboxID) (hkind : new.kind = old.kind)
    (hcount : new.broadcastCount = old.broadcastCount ∨ action = .claim old.id) :
    AttemptOrigin before action attempt := by
  rcases mem_of_mem_set hmem with rfl | ⟨hmem, -⟩
  · exact .kept old hold hid.symm howner.symm hkind.symm (by rwa [hid])
  · exact .same hmem

theorem attempt_origin (hchange : Change before action after) (hmem : attempt ∈ after.attempts) :
    AttemptOrigin before action attempt := by
  cases hchange with
  | insert hold hid guarded =>
    rcases mem_addAttempt hid hmem with hmem | rfl
    · exact .same hmem
    · exact .inserted _ _ rfl guarded.unsent
  | claim hrow hattempt guarded => exact .set hattempt hmem rfl rfl rfl (.inr rfl)
  | report hattempt leased | finalize hrow hattempt owner pinned =>
    exact .set hattempt hmem rfl rfl rfl (.inl rfl)
  | enqueue | bootstrap | assign | edit | lease | resume | cancel | pin
  | consume | forward | schedule => exact .same hmem

theorem claim_origin (hrun : LedgerRun history final) (hmem : attempt ∈ final.attempts)
    (hcount : 0 < attempt.broadcastCount) : ∃ event ∈ history, event.label = .claim attempt.id := by
  induction hrun generalizing attempt with
  | start => exact absurd hmem (not_mem_empty _)
  | extend before last ih =>
    cases attempt_origin last hmem with
    | kept old hold id owner kind count =>
      rcases count with count | haction
      · obtain ⟨event, hevent, hlabel⟩ := ih hold (count ▸ hcount)
        exact ⟨event, mem_cons_of_mem _ hevent, id ▸ hlabel⟩
      · exact ⟨_, mem_cons_self, haction⟩
    | inserted use token haction unsent => omega

theorem insert_origin (hrun : Run Change start actions final) (hmem : attempt ∈ final.attempts) :
    (∃ old ∈ start.attempts, old.id = attempt.id) ∨
      ∃ event ∈ actions, ∃ inserted use token, event.label = .insert inserted use token ∧
          inserted.outboxID = attempt.outboxID ∧ inserted.kind = attempt.kind := by
  induction hrun generalizing attempt with
  | start => exact .inl ⟨attempt, hmem, rfl⟩
  | extend before last ih =>
    cases attempt_origin last hmem with
    | kept old hold id owner kind count =>
      rcases ih hold with
        ⟨first, hfirst, hid⟩ | ⟨event, hevent, inserted, use, token, hlabel, howner, hkind⟩
      · exact .inl ⟨first, hfirst, hid.trans id⟩
      · exact .inr ⟨event, mem_cons_of_mem _ hevent, inserted, use,
          token, hlabel, howner.trans owner, hkind.trans kind⟩
    | inserted use token haction unsent =>
      exact .inr ⟨_, mem_cons_self, attempt, use, token, haction, rfl, rfl⟩

/-! ## Signing leases -/

/-- A lease was there before, on a row whose cancel intent is not new, or is
being written; signing leases only go to rows without a cancel intent. -/
def LeaseOrigin (before : TxTables) (action : Action) (row : OutboxRow) (lease : Lease) : Prop :=
  (∃ old ∈ before.outbox, old.lease = some lease ∧
      (row.cancelRequestedAt ≠ none → old.cancelRequestedAt ≠ none)) ∨
    (∃ nonce, action = .assign row.id nonce lease.token ∧ row.cancelRequestedAt = none) ∨
    ∃ use, action = .lease row.id use lease.token ∧ (use = .signing → row.cancelRequestedAt = none)

theorem LeaseOrigin.set {old new : OutboxRow} (hold : old ∈ before.outbox)
    (hmem : row ∈ before.outbox.set new) (hlease : row.lease = some lease)
    (hkeep : new.lease = none ∨
      (new.lease = old.lease ∧ new.cancelRequestedAt = old.cancelRequestedAt)) :
    LeaseOrigin before action row lease := by
  rcases mem_of_mem_set hmem with rfl | ⟨hmem, -⟩
  · rcases hkeep with hnone | ⟨hsame, hcancel⟩
    · simp [hnone] at hlease
    · exact .inl ⟨old, hold, hsame ▸ hlease, hcancel ▸ fun h => h⟩
  · exact .inl ⟨row, hmem, hlease, fun h => h⟩

theorem lease_origin (hchange : Change before action after) (hmem : row ∈ after.outbox)
    (hlease : row.lease = some lease) : LeaseOrigin before action row lease := by
  cases hchange with
  | enqueue hid fresh =>
    rcases mem_addRow hid hmem with hmem | rfl
    · exact .inl ⟨row, hmem, hlease, fun h => h⟩
    · simp [fresh.lease] at hlease
  | assign written now hrow hcursor hlane queued bare unpinned uncanceled
      clear =>
    rcases mem_of_mem_set hmem with rfl | ⟨hmem, -⟩
    · cases hlease
      exact .inr (.inl ⟨_, rfl, uncanceled⟩)
    · exact .inl ⟨row, hmem, hlease, fun h => h⟩
  | edit hkey hedit =>
    obtain ⟨old, hold, rfl⟩ := mem_mapRows.mp hmem
    have hrow := hedit old hold
    rcases hrow.lease with hsame | hnone
    · exact .inl ⟨old, hold, hsame ▸ hlease, fun hcanceled => hrow.cancel ▸ hcanceled⟩
    · simp [hnone] at hlease
  | lease use written now hrow guarded =>
    rcases mem_of_mem_set hmem with rfl | ⟨hmem, -⟩
    · cases hlease
      refine .inr (.inr ⟨use, rfl, ?_⟩)
      rintro rfl
      exact guarded.2.2.2
    · exact .inl ⟨row, hmem, hlease, fun h => h⟩
  | resume written now hrow queued held uncanceled =>
    rcases mem_of_mem_set hmem with rfl | ⟨hmem, -⟩
    · cases hlease
      exact .inr (.inr ⟨_, rfl, fun _ => uncanceled⟩)
    · exact .inl ⟨row, hmem, hlease, fun h => h⟩
  | cancel hold guarded => exact .set hold hmem hlease (.inl guarded.revoked)
  | insert hold hid guarded => exact .set hold hmem hlease (.inl guarded.released)
  | pin hrow hattempt owner unpinned live =>
    exact .set hrow hmem hlease (.inr ⟨rfl, rfl⟩)
  | finalize hrow hattempt owner pinned | consume hrow held unpinned =>
    exact .set hrow hmem hlease (.inl rfl)
  | bootstrap | claim | report | forward | schedule => exact .inl ⟨row, hmem, hlease, fun h => h⟩

/-! ## Nonces -/

/-- A row of the lane holds the nonce. -/
def Held (tx : TxTables) (lane : Lane) (nonce : ℕ) : Prop :=
  ∃ row ∈ tx.outbox, row.lane = lane ∧ row.nonce = some nonce

theorem Held.extends {old new : TxTables} (hextends : Extends old new)
    (hheld : Held old lane nonce) :
    Held new lane nonce := by
  obtain ⟨row, hrow, hlane, hnonce⟩ := hheld
  obtain ⟨after, hafter, hkeep⟩ := hextends.rows row hrow
  refine ⟨after, hafter, hkeep.lane.trans hlane, ?_⟩
  rw [hkeep.nonce (by rw [hnonce]; exact Option.some_ne_none _), hnonce]

/-- A nonce was there before or is being assigned. -/
def NonceOrigin (before : TxTables) (action : Action) (row : OutboxRow) : Prop :=
  (∃ old ∈ before.outbox, old.id = row.id ∧ old.nonce = row.nonce) ∨ row.nonce = none ∨
    ∃ nonce token, row.nonce = some nonce ∧ action = .assign row.id nonce token

theorem NonceOrigin.set {old new : OutboxRow} (hold : old ∈ before.outbox)
    (hmem : row ∈ before.outbox.set new) (hid : new.id = old.id) (hnonce : new.nonce = old.nonce) :
    NonceOrigin before action row := by
  rcases mem_of_mem_set hmem with rfl | ⟨hmem, -⟩
  · exact .inl ⟨old, hold, hid.symm, hnonce.symm⟩
  · exact .inl ⟨row, hmem, rfl, rfl⟩

theorem nonce_origin (hchange : Change before action after) (hmem : row ∈ after.outbox) :
    NonceOrigin before action row := by
  cases hchange with
  | enqueue hid fresh =>
    rcases mem_addRow hid hmem with hmem | rfl
    · exact .inl ⟨row, hmem, rfl, rfl⟩
    · exact .inr (.inl fresh.nonce)
  | assign lease now hrow hcursor hlane queued bare unpinned uncanceled clear =>
    rcases mem_of_mem_set hmem with rfl | ⟨hmem, -⟩
    · exact .inr (.inr ⟨_, _, rfl, rfl⟩)
    · exact .inl ⟨row, hmem, rfl, rfl⟩
  | edit hkey hedit =>
    obtain ⟨old, hold, rfl⟩ := mem_mapRows.mp hmem
    have htask := (hedit old hold).task
    exact .inl ⟨old, hold, htask.id.symm, htask.nonce.symm⟩
  | lease use lease now hrow guarded | resume lease now hrow queued held uncanceled
  | pin hrow hattempt owner unpinned live | finalize hrow hattempt owner pinned
  | consume hrow held unpinned => exact .set hrow hmem rfl rfl
  | cancel hold guarded | insert hold hid guarded =>
    exact .set hold hmem guarded.task.id guarded.task.nonce
  | bootstrap | claim | report | forward | schedule => exact .inl ⟨row, hmem, rfl, rfl⟩

theorem assign_origin (hrun : Run Change start actions final) (hrow : row ∈ final.outbox)
    (hnonce : row.nonce = some nonce)
    (hbare : ∀ old ∈ start.outbox, old.id = row.id → old.nonce = none) :
    ∃ event ∈ actions, ∃ token, event.label = .assign row.id nonce token := by
  induction hrun generalizing row with
  | start => simp [hbare row hrow rfl] at hnonce
  | extend before last ih =>
    rcases nonce_origin last hrow with
      ⟨old, hold, hid, hsame⟩ | hnone | ⟨assigned, token, hassigned, haction⟩
    · obtain ⟨event, hevent, token, hlabel⟩ := ih hold (hsame.trans hnonce) (by rwa [hid])
      exact ⟨event, mem_cons_of_mem _ hevent, token, hid ▸ hlabel⟩
    · simp [hnone] at hnonce
    · rw [hnonce] at hassigned
      cases hassigned
      exact ⟨_, mem_cons_self, token, haction⟩

/-! ## Cursors -/

/-- How a cursor of the new ledger came to its position. -/
inductive CursorOrigin (before : TxTables) (action : Action)
    (after : TxTables) (cursor : NonceCursor) : Prop
  | created (haction : action = .bootstrap cursor.lane cursor.nextNonce)
  | kept (old : NonceCursor) (hold : old ∈ before.cursors)
      (lane : old.lane = cursor.lane) (next : cursor.nextNonce = old.nextNonce)
  | advanced (old : NonceCursor) (hold : old ∈ before.cursors) (lane : old.lane = cursor.lane)
      (next : cursor.nextNonce = old.nextNonce + 1) (hheld : Held after cursor.lane old.nextNonce)
  | forwarded (old : NonceCursor) (hold : old ∈ before.cursors) (lane : old.lane = cursor.lane)
      (haction : action = .forward cursor.lane cursor.nextNonce)

theorem CursorOrigin.same (hmem : cursor ∈ before.cursors) :
    CursorOrigin before action after cursor :=
  .kept cursor hmem rfl rfl

theorem cursor_origin (hchange : Change before action after) (hmem : cursor ∈ after.cursors) :
    CursorOrigin before action after cursor := by
  cases hchange with
  | bootstrap absent above =>
    rcases (Table.mem_insertNew absent).mp hmem with hmem | rfl
    · exact .same hmem
    · exact .created rfl
  | assign lease now hrow hcursor hlane queued bare unpinned uncanceled clear =>
    rcases mem_setCursor hmem with rfl | ⟨hmem, -⟩
    · exact .advanced _ hcursor rfl rfl ⟨_, mem_set_self hrow rfl, hlane.symm, rfl⟩
    · exact .same hmem
  | forward new hold lane ahead =>
    rcases mem_setCursor hmem with rfl | ⟨hmem, -⟩
    · exact .forwarded _ hold lane.symm (by rw [lane])
    · exact .same hmem
  | schedule new hold lane next =>
    rcases mem_setCursor hmem with rfl | ⟨hmem, -⟩
    · exact .kept _ hold lane.symm next
    · exact .same hmem
  | enqueue | edit | lease | resume | cancel | insert | claim | report | pin
  | finalize | consume => exact .same hmem

/-- The action moved the lane's cursor over the nonce. -/
def Jumped (action : Event TxTables Action) (lane : Lane) (nonce : ℕ) : Prop :=
  ∃ old ∈ action.pre.cursors, old.lane = lane ∧ old.nextNonce ≤ nonce ∧
    ∃ confirmed, nonce < confirmed ∧ action.label = .forward lane confirmed

/-- Every nonce of the lane from `value` up to `next` is held or was jumped. -/
def Covered (history : List (Event TxTables Action)) (tx : TxTables)
    (lane : Lane) (value next : ℕ) : Prop := ∀ nonce, value ≤ nonce → nonce < next →
    Held tx lane nonce ∨ ∃ action ∈ history, Jumped action lane nonce

theorem Covered.extend {old new : TxTables} {value next : ℕ}
    (hcovered : Covered history old lane value next) (hextends : Extends old new)
    (event : Event TxTables Action) : Covered (event :: history) new lane value next := by
  intro nonce hlow hhigh
  rcases hcovered nonce hlow hhigh with hheld | ⟨action, haction, hjumped⟩
  · exact .inl (hheld.extends hextends)
  · exact .inr ⟨action, mem_cons_of_mem _ haction, hjumped⟩

/-- From its bootstrap on, a cursor leaves no gap that it did not jump. -/
theorem cursor_covered (hrun : LedgerRun history final) (hmem : cursor ∈ final.cursors) :
    ∃ value, (∃ event ∈ history, event.label = .bootstrap cursor.lane value) ∧
      Covered history final cursor.lane value cursor.nextNonce := by
  induction hrun generalizing cursor with
  | start => exact absurd hmem (Table.not_mem_empty _)
  | @extend history pre post action before last ih =>
    have hextends := extends_change (sound_run before) last
    -- What was covered stays covered; only the newest nonces are new.
    have hold : ∀ old ∈ pre.cursors, old.lane = cursor.lane →
        ∃ value, (∃ event ∈ (⟨pre, action, post⟩ : Event _ _) :: history,
            event.label = .bootstrap cursor.lane value) ∧
          Covered (⟨pre, action, post⟩ :: history) post cursor.lane value
            old.nextNonce := by
      intro old hold hlane
      obtain ⟨value, ⟨event, hevent, hlabel⟩, hcovered⟩ := ih hold
      rw [hlane] at hlabel hcovered
      exact ⟨value, ⟨event, mem_cons_of_mem _ hevent, hlabel⟩, hcovered.extend hextends _⟩
    cases cursor_origin last hmem with
    | created haction =>
      refine ⟨cursor.nextNonce, ⟨_, mem_cons_self, haction⟩, ?_⟩
      intro nonce hlow hhigh
      omega
    | kept old hmemOld lane next =>
      rw [next]
      exact hold old hmemOld lane
    | advanced old hmemOld lane next hheld =>
      obtain ⟨value, hboot, hcovered⟩ := hold old hmemOld lane
      refine ⟨value, hboot, ?_⟩
      intro nonce hlow hhigh
      by_cases hnew : nonce = old.nextNonce
      · exact .inl (hnew ▸ hheld)
      · exact hcovered nonce hlow (by omega)
    | forwarded old hmemOld lane haction =>
      obtain ⟨value, hboot, hcovered⟩ := hold old hmemOld lane
      refine ⟨value, hboot, ?_⟩
      intro nonce hlow hhigh
      by_cases hbelow : nonce < old.nextNonce
      · exact hcovered nonce hlow hbelow
      · exact .inr ⟨_, mem_cons_self, old, hmemOld, lane, not_lt.mp hbelow, _, hhigh, haction⟩

end Lazier.Ledger
