import Lazier.Chain.Receipt
import Lazier.Quorum.Head

/-!
# Log windows

The answer of a provider to `eth_getLogs` in the form in which it votes: sorted
into canonical order and digested.  The encoding under the digest is injective,
so two windows share a fingerprint only if the digest collides on them.
-/

namespace Lazier.Quorum

open Library Store List FixedBytes

/-- A log as the providers return it.  The lengths are those of Go slices. -/
structure WindowLog where
  blockNumber : UInt64
  blockHash : Hash
  txIndex : UInt64
  txHash : Hash
  index : UInt64
  address : Address
  topics : List Hash
  data : Bytes
  removed : Bool
  topicsFit : topics.length < 2 ^ 63
  dataFit : data.length < 2 ^ 63
  deriving DecidableEq

/-- The logs of one answer. -/
abbrev Window := {logs : List WindowLog // logs.length < 2 ^ 63}

/-! ## Canonical order -/

/-- The comparison of `normalizeLogWindow`. -/
def logLess (left right : WindowLog) : Bool :=
  if left.blockNumber ≠ right.blockNumber then
    decide (left.blockNumber < right.blockNumber)
  else if left.txIndex ≠ right.txIndex then
    decide (left.txIndex < right.txIndex)
  else if left.index ≠ right.index then decide (left.index < right.index)
  else decide (left.blockHash.hex < right.blockHash.hex)

/-- The order that a stable sort with `logLess` establishes. -/
def LogOrdered (left right : WindowLog) : Prop := logLess right left = false

instance : DecidableRel LogOrdered := fun left right =>
  inferInstanceAs (Decidable (logLess right left = false))

def normalizeLogWindow (logs : List WindowLog) : List WindowLog := logs.insertionSort LogOrdered

/-- The coordinates that `logLess` compares, most significant first. -/
def logKey (log : WindowLog) : ℕ ×ₗ ℕ ×ₗ ℕ ×ₗ String :=
  toLex (log.blockNumber.toNat, toLex (log.txIndex.toNat,
    toLex (log.index.toNat, log.blockHash.hex)))

theorem logLess_eq {left right : WindowLog} :
    logLess left right = decide (logKey left < logKey right) := by
  rw [logLess, logKey, logKey]
  simp only [Prod.Lex.toLex_lt_toLex, UInt64.lt_iff_toNat_lt]
  by_cases hblock : left.blockNumber = right.blockNumber
  swap
  · have hne : left.blockNumber.toNat ≠ right.blockNumber.toNat :=
      fun heq => hblock (UInt64.toNat_inj.mp heq)
    simp [hblock, hne]
  by_cases htx : left.txIndex = right.txIndex
  swap
  · have hne : left.txIndex.toNat ≠ right.txIndex.toNat := fun heq => htx (UInt64.toNat_inj.mp heq)
    simp [hblock, htx, hne]
  by_cases hindex : left.index = right.index
  swap
  · have hne : left.index.toNat ≠ right.index.toNat := fun heq => hindex (UInt64.toNat_inj.mp heq)
    simp [hblock, htx, hindex, hne]
  simp [hblock, htx, hindex]

theorem logOrdered_iff {left right : WindowLog} :
    LogOrdered left right ↔ logKey left ≤ logKey right := by
  rw [LogOrdered, logLess_eq, decide_eq_false_iff_not, not_lt]

instance : Std.Total LogOrdered where
  total left right := by
    rw [logOrdered_iff, logOrdered_iff]
    exact le_total _ _

instance : IsTrans WindowLog LogOrdered where
  trans left middle right := by
    rw [logOrdered_iff, logOrdered_iff, logOrdered_iff]
    exact le_trans

theorem normalizeLogWindow_sorted {logs : List WindowLog} :
    (normalizeLogWindow logs).Pairwise LogOrdered := pairwise_insertionSort LogOrdered logs

theorem normalizeLogWindow_perm (logs : List WindowLog) : (normalizeLogWindow logs).Perm logs :=
  perm_insertionSort LogOrdered logs

/-- Each of the logs is determined by its coordinates. -/
def KeysIdentify (logs : List WindowLog) : Prop := Set.InjOn logKey {log | log ∈ logs}

theorem keysIdentify_of_distinct {logs : List WindowLog}
    (hdistinct : logs.Pairwise fun log other => logKey log ≠ logKey other) : KeysIdentify logs :=
  fun _ hlog _ hother => inj_on_of_nodup_map (pairwise_map.mpr hdistinct) hlog hother

theorem normalizeLogWindow_eq_of_perm {left right : List WindowLog}
    (hkeys : KeysIdentify right) (hperm : left.Perm right) :
    normalizeLogWindow left = normalizeLogWindow right := by
  have hnormal : (normalizeLogWindow left).Perm (normalizeLogWindow right) :=
    ((normalizeLogWindow_perm left).trans hperm).trans (normalizeLogWindow_perm right).symm
  refine List.Perm.eq_of_pairwise ?_ normalizeLogWindow_sorted
    normalizeLogWindow_sorted hnormal
  intro log other hlog hother hle hge
  have hmem : log ∈ right := hperm.mem_iff.mp ((normalizeLogWindow_perm left).mem_iff.mp hlog)
  have hmem' : other ∈ right := (normalizeLogWindow_perm right).mem_iff.mp hother
  rw [logOrdered_iff] at hle hge
  exact hkeys hmem hmem' (le_antisymm hle hge)

/-! ## Fingerprints -/

/-- `writeUint`, the eight bytes of a `uint64`, most significant first. -/
def writeUint (value : ℕ) : Bytes := (ofNat 8 value).1

/-- What `logWindowFingerprint` writes for one log. -/
def encodeLog (log : WindowLog) : Bytes := writeUint log.blockNumber.toNat ++ log.blockHash.1 ++
    writeUint log.txIndex.toNat ++ log.txHash.1 ++ writeUint log.index.toNat ++ log.address.1 ++
    (writeUint log.topics.length ++ log.topics.flatMap Subtype.val) ++
    (writeUint log.data.length ++ log.data) ++ [if log.removed then 1 else 0]

def encodeWindow (logs : List WindowLog) : Bytes := writeUint logs.length ++ logs.flatMap encodeLog

def logWindowFingerprint (sha256 : Bytes → Hash) (logs : List WindowLog) : String :=
  hexBytes (sha256 (encodeWindow logs)).1 ++ "/" ++ toString logs.length

theorem bigEndian_append {bytes : Bytes} {byte : UInt8} :
    bigEndian (bytes ++ [byte]) = bigEndian bytes * 256 + byte.toNat := by
  rw [bigEndian, foldl_append]
  rfl

/-- The bytes of a number hold its value, as far as they reach. -/
theorem bigEndian_go (width value : ℕ) :
    bigEndian (ofNat.go width value) = value % 256 ^ width ∧
      (ofNat.go width value).length = width := by
  induction width generalizing value with
  | zero => exact ⟨(Nat.mod_one value).symm, rfl⟩
  | succ width ih =>
    obtain ⟨hvalue, hlength⟩ := ih (value / 256)
    rw [ofNat.go, bigEndian_append, hvalue, length_append,
      hlength, UInt8.toNat_ofNat', pow_succ' 256 width, Nat.mod_mul]
    refine ⟨?_, rfl⟩
    omega

theorem writeUint_eq {value : ℕ} : writeUint value = ofNat.go 8 value := by
  rw [writeUint, ofNat, ofBytes]
  simp [(bigEndian_go 8 value).2]

theorem separates_writeUint : Separates (· < 2 ^ 64) writeUint := by
  refine Separates.of_width (fun value => (ofNat 8 value).2) ?_
  intro left right hleft hright heq
  have hvalue := congrArg bigEndian heq
  rw [writeUint_eq, writeUint_eq, (bigEndian_go 8 left).1, (bigEndian_go 8 right).1] at hvalue
  omega

theorem separates_fixed (width : ℕ) : Separates (fun _ : FixedBytes width => True) Subtype.val :=
  Separates.of_width Subtype.property fun _ _ _ _ heq => Subtype.ext heq

theorem separates_encodeLog : Separates (fun _ : WindowLog => True) encodeLog := by
  intro left right _ _ after behind heq
  have hleftTopics := left.topicsFit
  have hrightTopics := right.topicsFit
  have hleftData := left.dataFit
  have hrightData := right.dataFit
  simp only [encodeLog, append_assoc] at heq
  -- The fields are read off in the order in which they were written.
  obtain ⟨hblock, heq⟩ := separates_writeUint _ _ left.blockNumber.toNat_lt
    right.blockNumber.toNat_lt _ _ heq
  obtain ⟨hblockHash, heq⟩ := separates_fixed 32 _ _ trivial trivial _ _ heq
  obtain ⟨htxIndex, heq⟩ := separates_writeUint _ _ left.txIndex.toNat_lt
    right.txIndex.toNat_lt _ _ heq
  obtain ⟨htxHash, heq⟩ := separates_fixed 32 _ _ trivial trivial _ _ heq
  obtain ⟨hindex, heq⟩ := separates_writeUint _ _ left.index.toNat_lt right.index.toNat_lt _ _ heq
  obtain ⟨haddress, heq⟩ := separates_fixed 20 _ _ trivial trivial _ _ heq
  obtain ⟨hcount, heq⟩ := separates_writeUint _ _
    (hleftTopics.trans (by decide)) (hrightTopics.trans (by decide)) _ _ heq
  obtain ⟨htopics, heq⟩ := (separates_fixed 32).flatMap hcount
    (fun _ _ => trivial) (fun _ _ => trivial) heq
  obtain ⟨hlength, heq⟩ := separates_writeUint _ _
    (hleftData.trans (by decide)) (hrightData.trans (by decide)) _ _ heq
  obtain ⟨hdata, heq⟩ := append_inj heq hlength
  rw [singleton_append, singleton_append, List.cons.injEq] at heq
  obtain ⟨hremoved, hafter⟩ := heq
  refine ⟨?_, hafter⟩
  have hflag : left.removed = right.removed := by
    cases hleft : left.removed <;> cases hright : right.removed <;>
      simp [hleft, hright] at hremoved ⊢
  rw [UInt64.toNat_inj] at hblock htxIndex hindex
  cases left
  cases right
  dsimp only at *
  subst hblock hblockHash htxIndex htxHash hindex haddress htopics hdata hflag
  rfl

theorem encodeWindow_injective {left right : List WindowLog}
    (hleft : left.length < 2 ^ 63) (hright : right.length < 2 ^ 63)
    (heq : encodeWindow left = encodeWindow right) : left = right := by
  have hencode := separates_writeUint.counted separates_encodeLog
  exact hencode.injective ⟨hleft.trans (by decide), fun _ _ => trivial⟩
    ⟨hright.trans (by decide), fun _ _ => trivial⟩ heq

theorem eq_of_fingerprint {sha256 : Bytes → Hash} {left right : List WindowLog}
    (hleft : left.length < 2 ^ 63) (hright : right.length < 2 ^ 63)
    (hcollision : sha256 (encodeWindow left) = sha256 (encodeWindow right) →
      encodeWindow left = encodeWindow right)
    (heq : logWindowFingerprint sha256 left =
      logWindowFingerprint sha256 right) : left = right := by
  have hlists := congrArg String.toList heq
  simp only [logWindowFingerprint, String.toList_append, append_assoc] at hlists
  have hdigest : sha256 (encodeWindow left) = sha256 (encodeWindow right) :=
    Subtype.ext (hexBytes_inj
      ((sha256 (encodeWindow left)).2.trans (sha256 (encodeWindow right)).2.symm) hlists)
  exact encodeWindow_injective hleft hright (hcollision hdigest)

/-- The texts that the votes compare identify the window and the receipt, and
the canonical order makes the vote a function of the multiset of logs. -/
theorem votes_identify_answers (sha256 : Bytes → Hash) :
    (∀ left right : Window, encodeWindow left.1 = encodeWindow right.1 → left = right) ∧
      Function.Injective Chain.receiptFingerprint ∧
      (∀ left right : List WindowLog, KeysIdentify right → left.Perm right →
        normalizeLogWindow left = normalizeLogWindow right) ∧
      ∀ left right : Window, KeysIdentify right.1 →
        (sha256 (encodeWindow (normalizeLogWindow left.1)) =
            sha256 (encodeWindow (normalizeLogWindow right.1)) →
          encodeWindow (normalizeLogWindow left.1) = encodeWindow (normalizeLogWindow right.1)) →
        (logWindowFingerprint sha256 (normalizeLogWindow left.1) =
          logWindowFingerprint sha256 (normalizeLogWindow right.1) ↔ left.1.Perm right.1) := by
  refine ⟨?_, Chain.receiptFingerprint_injective, ?_, ?_⟩
  · intro left right heq
    exact Subtype.ext (encodeWindow_injective left.2 right.2 heq)
  · intro left right hkeys hperm
    exact normalizeLogWindow_eq_of_perm hkeys hperm
  · intro left right hkeys hcollision
    have hleft := (normalizeLogWindow_perm left.1).length_eq.trans_lt left.2
    have hright := (normalizeLogWindow_perm right.1).length_eq.trans_lt right.2
    constructor
    · intro heq
      have hnormal := eq_of_fingerprint hleft hright hcollision heq
      exact (normalizeLogWindow_perm left.1).symm.trans
        (hnormal ▸ normalizeLogWindow_perm right.1)
    · intro hperm
      rw [normalizeLogWindow_eq_of_perm hkeys hperm]

end Lazier.Quorum
