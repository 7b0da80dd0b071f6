import Lazier.Quorum.Polls
import Lazier.Quorum.Receipts
import Lazier.Quorum.Windows

/-!
# Completion orders

The probes of a quorum read complete in any order, and those still out when a
majority has formed are cancelled.  Every read nevertheless ends the same way
for the same answers: two majorities share a provider, so at most one vote can
win, and without a winner all probes have completed and only the multiset of
their answers is used.
-/

namespace Lazier.Quorum

open Chain Library Store List

/-- An order in which the probes of all providers complete. -/
structure Completions (total : ℕ) where
  order : List (Fin total)
  complete : order.Perm (List.finRange total)

variable {total : ℕ} {completions : Completions total}

def PollRound.reordered {Value : Type} (round : PollRound total Value)
    (completions : Completions total) : PollRound total Value :=
  { round with
    order := completions.order
    complete := completions.complete }

/-- The cancelled probes may also end differently. -/
def StateRound.reordered (round : StateRound total) (completions : Completions total)
    (cancelled : Fin total → Answer Bytes) :
    StateRound total :=
  { round with
    cancelled
    order := completions.order
    complete := completions.complete }

def ReceiptRound.reordered (round : ReceiptRound total) (completions : Completions total) :
    ReceiptRound total :=
  { round with
    order := completions.order
    complete := completions.complete }

def EstimateRound.reordered (round : EstimateRound total) (completions : Completions total) :
    EstimateRound total :=
  { round with
    order := completions.order
    complete := completions.complete }

/-! ## Results of the same class -/

/-- Both results are values, or both are errors. -/
inductive SameResult {Failure Value : Type}
    (sameError : Failure → Failure → Prop) (sameValue : Value → Value → Prop) :
    Except Failure Value → Except Failure Value → Prop
  | ok {left right : Value} (hsame : sameValue left right) :
      SameResult sameError sameValue (.ok left) (.ok right)
  | error {left right : Failure} (hsame : sameError left right) :
      SameResult sameError sameValue (.error left) (.error right)

/-- Errors of one class: their lists differ in order only, and a voted revert
is one of the winning identity. -/
inductive ReadError.SameClass : ReadError → ReadError → Prop
  | noProviders : SameClass .noProviders .noProviders
  | noBlockNumber : SameClass .noBlockNumber .noBlockNumber
  | quorumUnavailable {chainName : String} {left right : List String} (hdetails : left.Perm right) :
      SameClass (.quorumUnavailable chainName left) (.quorumUnavailable chainName right)
  | nonceConflict {chainName : String} {account : Address} {details : List String} :
      SameClass (.nonceConflict chainName account details)
        (.nonceConflict chainName account details)
  | headConflict {chainName : String} {number : ℕ} {details : List String} :
      SameClass (.headConflict chainName number details) (.headConflict chainName number details)
  | votedRevert {operation : String} {left right : ErrorChain}
      (hidentity : revertFingerprint left = revertFingerprint right) :
      SameClass (.votedRevert operation left) (.votedRevert operation right)
  | stateReadConflict {chainName operation : String}
      {left right : List String} (hvotes : left.Perm right) :
      SameClass (.stateReadConflict chainName operation left)
        (.stateReadConflict chainName operation right)

inductive ReceiptError.SameClass : ReceiptError → ReceiptError → Prop
  | refl {err : ReceiptError} : SameClass err err
  | transient {left right : List String} (hmessages : left.Perm right) :
      SameClass (.transient left) (.transient right)

/-- Errors of one class of a gas estimate. -/
inductive EstimateClass (chainName : String) : GoError → GoError → Prop
  | refl {err : GoError} : EstimateClass chainName err err
  | voted {left right : ErrorChain} (hidentity : revertFingerprint left = revertFingerprint right) :
      EstimateClass chainName (.voted left) (.voted right)
  | quorumUnavailable {left right : List String} (hdetails : left.Perm right) :
      EstimateClass chainName (.new (quorumUnavailableText chainName left))
        (.new (quorumUnavailableText chainName right))

/-! ## Votes by value -/

variable {chainName : String}

section Poll

variable {Value : Type} [DecidableEq Value]

/-- The loop returns a value with `quorum` votes, or there is none. -/
theorem poll_cases {answers : Fin total → Option Value} {quorum : ℕ} {votes : List Value}
    {order : List (Fin total)} (hminority : ∀ value, votes.count value < quorum) :
    (∃ value, poll answers quorum votes order = some value ∧
      quorum ≤ (votes ++ order.filterMap answers).count value) ∨
    (poll answers quorum votes order = none ∧
      ∀ value, (votes ++ order.filterMap answers).count value < quorum) := by
  induction order generalizing votes with
  | nil =>
    refine .inr ⟨rfl, ?_⟩
    simpa using hminority
  | cons index rest ih =>
    rw [poll, filterMap_cons]
    cases answers index with
    | none => exact ih hminority
    | some value =>
      dsimp only
      have hperm : (votes ++ value :: rest.filterMap answers).Perm
          (value :: votes ++ rest.filterMap answers) := perm_middle
      by_cases hquorum : quorum ≤ (value :: votes).count value
      · rw [if_pos hquorum]
        refine .inl ⟨value, rfl, ?_⟩
        rw [hperm.count_eq, count_append]
        omega
      · rw [if_neg hquorum]
        have hnext : ∀ other, (value :: votes).count other < quorum := by
          intro other
          by_cases hsame : value = other
          · rw [← hsame]
            exact Nat.lt_of_not_le hquorum
          · rw [count_cons_of_ne hsame]
            exact hminority other
        simp only [hperm.count_eq]
        exact ih hnext

theorem poll_ends (round : PollRound total Value) :
    Ends round.answers id (poll round.answers (majority total) [] round.order = some ·)
      (poll round.answers (majority total) [] round.order = none) := by
  have hcount : ∀ other, ([] ++ round.order.filterMap round.answers).count
      other = (supporters round.answers other).card := by
    intro other
    rw [← countP_votes round.complete other, nil_append]
    rfl
  have hcases := @poll_cases _ _ _ round.answers (majority total) [] round.order
    fun _ => Nat.succ_pos _
  simp only [hcount] at hcases
  exact hcases

theorem voteByValue_reordered {failure : String} {summary : ℕ → String} {render : Value → String}
    {conflict : List String → ReadError}
    (hconflict : ∀ details, ReadError.SameClass (conflict details) (conflict details))
    (round : PollRound total Value) (completions : Completions total) :
    SameResult ReadError.SameClass (· = ·)
      (voteByValue chainName failure summary render conflict round)
      (voteByValue chainName failure summary render conflict (round.reordered completions)) := by
  have hperm : round.order.Perm completions.order := round.complete.trans completions.complete.symm
  have hpoll : poll round.answers (majority total) [] round.order =
      poll round.answers (majority total) [] completions.order := by
    refine (poll_ends round).alike (poll_ends (round.reordered completions)) ?_
      fun hleft hright => hleft.trans hright.symm
    intro left right hsame hleft hright
    exact hleft.trans ((congrArg some hsame).trans hright.symm)
  rw [voteByValue, voteByValue]
  dsimp only [PollRound.reordered]
  rw [← hpoll, ← hperm.countP_eq]
  by_cases htotal : total = 0
  · rw [if_pos htotal, if_pos htotal]
    exact .error .noProviders
  rw [if_neg htotal, if_neg htotal]
  cases poll round.answers (majority total) [] round.order with
  | some value => exact .ok rfl
  | none =>
    dsimp only
    split
    · exact .error (.quorumUnavailable (((hperm.filter _).map _).append_right _))
    · exact .error (hconflict _)

end Poll

/-! ## State reads -/

variable {sha256 : Bytes → Hash} {operation fingerprint : String}
  {answers : Fin total → Answer Bytes} {round : StateRound total} {done order : List (Fin total)}
  {votes : StateVotes} {index : Fin total} {probe : StateProbe}

/-- The vote of a provider in a state read. -/
def stateVote (sha256 : Bytes → Hash) (operation : String) (answers : Fin total → Answer Bytes)
    (index : Fin total) :
    Option String :=
  (stateProbe operation index (answers index)).fingerprint sha256

/-- The transport failure of a provider in a state read. -/
def stateFailure (operation : String) (answers : Fin total → Answer Bytes) (index : Fin total) :
    Option ErrorChain :=
  match stateProbe operation index (answers index) with
  | .transient err => some err
  | .payload _ => none
  | .revert _ => none

/-- The accumulators while no vote has a majority. -/
structure OpenVotes (sha256 : Bytes → Hash) (operation : String)
    (answers : Fin total → Answer Bytes) (done : List (Fin total)) (votes : StateVotes) : Prop where
  undecided : votes.majorityFingerprint = none
  counted : votes.comparable.map Prod.fst = done.filterMap (stateVote sha256 operation answers)
  failures : votes.transientErrs = done.filterMap (stateFailure operation answers)
  minority : ∀ fingerprint, votes.comparable.countP (·.1 = fingerprint) < majority total

/-- The fingerprints of the comparable probes are theirs. -/
def Labelled (sha256 : Bytes → Hash) (votes : StateVotes) : Prop := ∀ entry ∈ votes.comparable,
    entry.2.fingerprint sha256 = some entry.1

theorem StateVotes.record_vote {quorum : ℕ} (hvote : probe.fingerprint sha256 = some fingerprint) :
    votes.record sha256 quorum probe = votes.vote quorum fingerprint probe := by
  cases probe with
  | payload bytes | revert err =>
    cases hvote
    rfl
  | transient err => cases hvote

theorem StateProbe.fingerprint_eq_none (hvote : probe.fingerprint sha256 = none) :
    ∃ err, probe = .transient err := by
  cases probe with
  | payload bytes | revert err => cases hvote
  | transient err => exact ⟨err, rfl⟩

theorem Labelled.record (hlabelled : Labelled sha256 votes) (quorum : ℕ) (probe : StateProbe) :
    Labelled sha256 (votes.record sha256 quorum probe) := by
  intro entry hentry
  cases hvote : probe.fingerprint sha256 with
  | none =>
    obtain ⟨err, rfl⟩ := StateProbe.fingerprint_eq_none hvote
    exact hlabelled entry hentry
  | some fingerprint =>
    rw [StateVotes.record_vote hvote] at hentry
    rcases mem_append.mp hentry with hold | hnew
    · exact hlabelled entry hold
    · rw [mem_singleton.mp hnew]
      exact hvote

theorem Labelled.collect (hlabelled : Labelled sha256 votes) (order : List (Fin total)) :
    Labelled sha256 (collectState sha256 operation round votes order) := by
  induction order generalizing votes with
  | nil => exact hlabelled
  | cons index rest ih => exact ih (hlabelled.record _ _)

/-- A majority stays, and so does every comparable probe. -/
theorem collectState_settled (hmajority : votes.majorityFingerprint = some fingerprint)
    (order : List (Fin total)) :
    (collectState sha256 operation round votes order).majorityFingerprint = some fingerprint ∧
      votes.comparable ⊆ (collectState sha256 operation round votes order).comparable := by
  induction order generalizing votes with
  | nil => exact ⟨hmajority, fun _ hentry => hentry⟩
  | cons index rest ih =>
    rw [collectState]
    generalize stateProbe operation index _ = probe
    cases hvote : probe.fingerprint sha256 with
    | none =>
      obtain ⟨err, rfl⟩ := StateProbe.fingerprint_eq_none hvote
      exact ih hmajority
    | some other =>
      rw [StateVotes.record_vote hvote]
      have hkept : (votes.vote (majority total) other
          probe).majorityFingerprint = some fingerprint := by
        rw [StateVotes.vote, hmajority]
        exact if_neg (by simp)
      obtain ⟨hsettled, hsubset⟩ := ih hkept
      refine ⟨hsettled, fun entry hentry => hsubset ?_⟩
      exact mem_append_left _ hentry

theorem OpenVotes.failed {err : ErrorChain} (hopen : OpenVotes sha256 operation answers done votes)
    (hprobe : stateProbe operation index (answers index) = .transient err) :
    OpenVotes sha256 operation answers (done ++ [index])
      { votes with transientErrs := votes.transientErrs ++ [err] } where
  undecided := hopen.undecided
  counted := by
    simp [hopen.counted, stateVote, hprobe, StateProbe.fingerprint]
  failures := by simp [hopen.failures, stateFailure, hprobe]
  minority := hopen.minority

theorem OpenVotes.voted (hopen : OpenVotes sha256 operation answers done votes)
    (hprobe : stateProbe operation index (answers index) = probe)
    (hvote : probe.fingerprint sha256 = some fingerprint) :
    OpenVotes sha256 operation answers (done ++ [index])
        (votes.vote (majority total) fingerprint probe) ∨
      ((votes.vote (majority total) fingerprint probe).majorityFingerprint = some fingerprint ∧
        majority total ≤ ((done ++ [index]).filterMap (stateVote sha256 operation answers)).countP
            fun vote => decide (vote = fingerprint)) := by
  have hcounted : (votes.comparable ++ [(fingerprint, probe)]).map Prod.fst =
      (done ++ [index]).filterMap (stateVote sha256 operation answers) := by
    simp [hopen.counted, stateVote, hprobe, hvote]
  by_cases hquorum : majority total ≤
      (votes.comparable ++ [(fingerprint, probe)]).countP (·.1 = fingerprint)
  · refine .inr ⟨if_pos ⟨hquorum, hopen.undecided⟩, ?_⟩
    rw [← hcounted, countP_map]
    exact hquorum
  · refine .inl ⟨?_, hcounted, ?_, fun other => ?_⟩
    · exact (if_neg fun hboth => hquorum hboth.1).trans hopen.undecided
    · have hanswered : stateFailure operation answers index = none := by
        rw [stateFailure, hprobe]
        cases probe with
        | payload bytes | revert err => rfl
        | transient err => cases hvote
      simp [StateVotes.vote, hopen.failures, hanswered]
    · by_cases hsame : fingerprint = other
      · rw [← hsame]
        exact Nat.lt_of_not_le hquorum
      · have hless := hopen.minority other
        simpa [StateVotes.vote, hsame] using hless

/-- The vote is open after all completions, or some fingerprint won it. -/
theorem collectState_cases (hopen : OpenVotes sha256 operation round.answers done votes)
    (order : List (Fin total)) :
    OpenVotes sha256 operation round.answers (done ++ order)
        (collectState sha256 operation round votes order) ∨ ∃ fingerprint,
        (collectState sha256 operation round votes order).majorityFingerprint = some fingerprint ∧
        fingerprint ∈ (collectState sha256 operation round votes order).comparable.map Prod.fst ∧
        majority total ≤ ((done ++ order).filterMap
          (stateVote sha256 operation round.answers)).countP
            fun vote => decide (vote = fingerprint) := by
  induction order generalizing done votes with
  | nil =>
    rw [append_nil]
    exact .inl hopen
  | cons index rest ih =>
    have hlist : done ++ index :: rest = done ++ [index] ++ rest := by simp
    rw [hlist, collectState, hopen.undecided]
    simp only [Option.isSome_none, Bool.false_eq_true, if_false]
    cases hvote : (stateProbe operation index (round.answers index)).fingerprint sha256 with
    | none =>
      obtain ⟨err, hprobe⟩ := StateProbe.fingerprint_eq_none hvote
      rw [hprobe]
      exact ih (hopen.failed hprobe)
    | some fingerprint =>
      rw [StateVotes.record_vote hvote]
      rcases hopen.voted rfl hvote with hnext | ⟨hmajority, hquorum⟩
      · exact ih hnext
      · obtain ⟨hsettled, hsubset⟩ := collectState_settled hmajority rest
        refine .inr ⟨fingerprint, hsettled, ?_, ?_⟩
        · have hentry : (fingerprint, stateProbe operation index
              (round.answers index)) ∈ (votes.vote (majority total) fingerprint _).comparable :=
            mem_append_right _ (mem_singleton_self _)
          exact mem_map.mpr ⟨_, hsubset hentry, rfl⟩
        · rw [filterMap_append, countP_append]
          exact hquorum.trans (Nat.le_add_right _ _)

/-- What a state read returns for a winning fingerprint: a payload or a revert
that carries it. -/
inductive Won (sha256 : Bytes → Hash) (operation fingerprint : String) :
    Except ReadError Bytes → Prop
  | payload {bytes : Bytes}
      (hcarries : "s:" ++ FixedBytes.hexBytes (sha256 bytes).1 = fingerprint) :
      Won sha256 operation fingerprint (.ok bytes)
  | revert {err : ErrorChain} (hcarries : revertFingerprint err = fingerprint) :
      Won sha256 operation fingerprint (.error (.votedRevert operation err))

theorem won_of_majorityFingerprint {quorum : ℕ} (hlabelled : Labelled sha256 votes)
    (hmajority : votes.majorityFingerprint = some fingerprint)
    (hcounted : fingerprint ∈ votes.comparable.map Prod.fst) : Won sha256 operation fingerprint
      (resolveState operation chainName quorum votes) := by
  rw [resolveState, hmajority]
  dsimp only
  cases hfind : votes.comparable.find? (·.1 = fingerprint) with
  | none =>
    obtain ⟨entry, hentry, hkey⟩ := mem_map.mp hcounted
    have hnot := List.find?_eq_none.mp hfind entry hentry
    exact absurd (decide_eq_true hkey) hnot
  | some entry =>
    obtain ⟨key, probe⟩ := entry
    have htest := List.find?_some hfind
    have hkey : key = fingerprint := of_decide_eq_true htest
    have hlabel := hlabelled _ (mem_of_find?_eq_some hfind)
    rw [hkey] at hlabel
    cases probe with
    | payload bytes => exact .payload (Option.some.inj hlabel)
    | revert err => exact .revert (Option.some.inj hlabel)
    | transient err => cases hlabel

theorem revertFingerprint_ne_payload {err : ErrorChain} {digest : String} :
    revertFingerprint err ≠ "s:" ++ digest := by
  have hfirst : (revertFingerprint err).toList.head? = some 'r' := by
    rw [revertFingerprint]
    split
    · simp
    · split <;> simp
  intro heq
  rw [heq] at hfirst
  simp at hfirst

theorem Won.sameResult {left right : Except ReadError Bytes}
    (hleft : Won sha256 operation fingerprint left)
    (hright : Won sha256 operation fingerprint right) : SameResult ReadError.SameClass
      (fun left right => sha256 left = sha256 right) left right := by
  cases hleft with
  | payload hpayload =>
    cases hright with
    | payload hother =>
      refine .ok (Subtype.ext ?_)
      have heq := String.ext_iff.mp (hpayload.trans hother.symm)
      rw [String.toList_append, String.toList_append] at heq
      have hbytes := append_cancel_left heq
      exact @FixedBytes.hexBytes_inj _ _ ((sha256 _).2.trans (sha256 _).2.symm) [] []
        (by simpa using hbytes)
    | revert hother => exact absurd (hother.trans hpayload.symm) revertFingerprint_ne_payload
  | revert hrevert =>
    cases hright with
    | payload hother => exact absurd (hrevert.trans hother.symm) revertFingerprint_ne_payload
    | revert hother => exact .error (.votedRevert (hrevert.trans hother.symm))

theorem voteStateRead_ends (sha256 : Bytes → Hash) (operation chainName : String)
    (htotal : total ≠ 0) (round : StateRound total) :
    Ends (stateVote sha256 operation round.answers) id
      (Won sha256 operation · (voteStateRead sha256 operation chainName round))
      (∃ votes, OpenVotes sha256 operation round.answers round.order votes ∧
        voteStateRead sha256 operation chainName round =
          resolveState operation chainName (majority total) votes) := by
  rw [voteStateRead, if_neg htotal]
  have hstart : OpenVotes sha256 operation round.answers [] ⟨[], [], none⟩ :=
    ⟨rfl, rfl, rfl, fun _ => Nat.succ_pos _⟩
  rcases collectState_cases hstart round.order with
    hopen | ⟨fingerprint, hmajority, hcounted, hquorum⟩
  · rw [nil_append] at hopen
    refine .inr ⟨⟨_, hopen, rfl⟩, fun fingerprint => ?_⟩
    rw [← countP_votes round.complete, ← hopen.counted, countP_map]
    exact hopen.minority fingerprint
  · rw [nil_append, countP_votes round.complete] at hquorum
    have hlabelled : Labelled sha256 ⟨[], [], none⟩ := nofun
    exact .inl ⟨fingerprint, won_of_majorityFingerprint
      (hlabelled.collect round.order) hmajority hcounted, hquorum⟩

theorem OpenVotes.sameResult {other : List (Fin total)} {left right : StateVotes}
    (hleft : OpenVotes sha256 operation answers order left)
    (hright : OpenVotes sha256 operation answers other right) (hperm : order.Perm other) :
    SameResult ReadError.SameClass (fun left right => sha256 left = sha256 right)
      (resolveState operation chainName (majority total) left)
      (resolveState operation chainName (majority total) right) := by
  have hvotes : (left.comparable.map Prod.fst).Perm (right.comparable.map Prod.fst) := by
    rw [hleft.counted, hright.counted]
    exact hperm.filterMap _
  have hfailures : left.transientErrs.Perm right.transientErrs := by
    rw [hleft.failures, hright.failures]
    exact hperm.filterMap _
  have hlength : left.comparable.length = right.comparable.length := by
    simpa using hvotes.length_eq
  rw [resolveState, resolveState, hleft.undecided, hright.undecided]
  dsimp only
  rw [hlength]
  split
  · exact .error (.stateReadConflict hvotes)
  · exact .error (.quorumUnavailable ((hfailures.map _).append_right _))

theorem voteStateRead_reordered (sha256 : Bytes → Hash) (operation : String) (chainName : String)
    (round : StateRound total) (completions : Completions total)
    (cancelled : Fin total → Answer Bytes) :
    SameResult ReadError.SameClass (fun left right => sha256 left = sha256 right)
      (voteStateRead sha256 operation chainName round)
      (voteStateRead sha256 operation chainName (round.reordered completions cancelled)) := by
  by_cases htotal : total = 0
  · rw [voteStateRead, voteStateRead, if_pos htotal, if_pos htotal]
    exact .error .noProviders
  have hends := voteStateRead_ends sha256 operation chainName htotal
  refine (hends round).alike (hends (round.reordered completions cancelled)) ?_ ?_
  · rintro _ _ rfl hleft hright
    exact hleft.sameResult hright
  · rintro ⟨votes, hopen, hresult⟩ ⟨others, hothers, hrest⟩
    rw [hresult, hrest]
    exact hopen.sameResult hothers (round.complete.trans completions.complete.symm)

/-! ## Receipts -/

section Receipts

variable {round : ReceiptRound total} {left right : Tally} {minBlock : Option ℕ}

/-- The highest block in question depends on the blocks of the candidates
alone. -/
theorem highestCandidateBlock_congr {left right : List (Entry String Receipt)}
    (hblocks : ∀ number, (∃ entry ∈ left, entry.ballot.blockNumber = some number) ↔
        ∃ entry ∈ right, entry.ballot.blockNumber = some number) :
    highestCandidateBlock left minBlock = highestCandidateBlock right minBlock := by
  refine Option.ext fun height => ?_
  simp only [highestCandidateBlock_eq_some, InQuestion, hblocks]

/-- The candidates of two undecided lookups with the same answers. -/
structure SameCandidates (left right : Tally) : Prop where
  denials : left.notFoundTotal = right.notFoundTotal
  failures : left.transientErrs.Perm right.transientErrs
  votes : totalVotes left.candidates = totalVotes right.candidates
  size : left.candidates.length = right.candidates.length
  blocks : ∀ number, (∃ entry ∈ left.candidates, entry.ballot.blockNumber = some number) ↔
      ∃ entry ∈ right.candidates, entry.ballot.blockNumber = some number

section

variable (hleft : Undecided round left) (hright : Undecided (round.reordered completions) right)

include hleft hright

theorem Undecided.keys_subset : left.candidates.map Entry.key ⊆ right.candidates.map Entry.key := by
  intro key hkey
  obtain ⟨entry, hentry, rfl⟩ := mem_map.mp hkey
  obtain ⟨index, hanswer, hlabel⟩ := hleft.returned entry hentry
  rw [hlabel]
  exact hright.represented index entry.ballot hanswer

theorem Undecided.block_mem {number : ℕ}
    (hblock : ∃ entry ∈ left.candidates, entry.ballot.blockNumber = some number) :
    ∃ entry ∈ right.candidates, entry.ballot.blockNumber = some number := by
  obtain ⟨entry, hentry, hnumber⟩ := hblock
  obtain ⟨index, hanswer, -⟩ := hleft.returned entry hentry
  obtain ⟨other, hother, -, hsame⟩ := hright.candidate_block hanswer
  exact ⟨other, hother, hsame.trans hnumber⟩

theorem sameCandidates_of_undecided : SameCandidates left right := by
  have hback : Undecided ((round.reordered completions).reordered
      ⟨round.order, round.complete⟩) left := hleft
  have hperm : (left.candidates.map Entry.key).Perm (right.candidates.map Entry.key) :=
    (perm_ext_iff_of_nodup hleft.keys hright.keys).mpr fun key =>
      ⟨fun hkey => hleft.keys_subset hright hkey, fun hkey => hright.keys_subset hback hkey⟩
  exact {
    denials := hleft.denials.trans hright.denials.symm
    failures := by
      rw [hleft.failures, hright.failures]
      exact (round.complete.trans completions.complete.symm).filterMap _
    votes := hleft.votes.trans hright.votes.symm
    size := by simpa using hperm.length_eq
    blocks := fun number =>
      ⟨hleft.block_mem hright, hright.block_mem hback⟩ }

end

theorem resolveAbsent_sameClass (hsame : SameCandidates left right) :
    ReceiptError.SameClass (resolveAbsent chainName round minBlock left)
      (resolveAbsent chainName (round.reordered completions) minBlock right) := by
  have hempty : left.transientErrs = [] ↔ right.transientErrs = [] := by
    rw [← length_eq_zero_iff, hsame.failures.length_eq, length_eq_zero_iff]
  have hclass : ∀ (enough : Prop) [Decidable enough] (err : ReceiptError), ReceiptError.SameClass
        (if enough then .notFound
          else if left.transientErrs ≠ [] then .transient left.transientErrs
          else err)
        (if enough then .notFound
          else if right.transientErrs ≠ [] then .transient right.transientErrs
          else err) := by
    intro enough _ err
    simp only [ne_eq, hempty]
    split
    · exact .refl
    · split
      · exact .transient hsame.failures
      · exact .refl
  cases minBlock with
  | none =>
    simp only [resolveAbsent, hsame.denials]
    exact hclass _ _
  | some block => exact hclass _ _

theorem transactionReceiptAt_reordered (chainName : String) (round : ReceiptRound total)
    (completions : Completions total) (txHash : Hash) (minBlock : Option ℕ) :
    SameResult ReceiptError.SameClass
      (fun left right => receiptFingerprint left = receiptFingerprint right)
      (transactionReceiptAt chainName round txHash minBlock)
      (transactionReceiptAt chainName (round.reordered completions) txHash minBlock) := by
  rw [transactionReceiptAt, transactionReceiptAt]
  by_cases htotal : total = 0
  · rw [if_pos htotal, if_pos htotal]
    exact .error .refl
  rw [if_neg htotal, if_neg htotal]
  refine (collect_round round).alike (collect_round (round.reordered completions)) ?_ ?_
  · intro receipt other hsame hsettled hother
    rw [hsettled, hother]
    exact .ok hsame
  · rintro ⟨tally, hopen, hundecided⟩ ⟨others, hothers, hrest⟩
    have hsame := sameCandidates_of_undecided hundecided hrest
    have hsize := hsame.size
    rw [hopen, hothers]
    dsimp only
    cases hleft : tally.candidates with
    | nil =>
      rw [hleft, length_nil, eq_comm, length_eq_zero_iff] at hsize
      rw [hsize]
      exact .error (resolveAbsent_sameClass hsame)
    | cons first rest =>
      cases hright : others.candidates with
      | nil =>
        rw [hleft, hright] at hsize
        cases hsize
      | cons second remaining =>
        have hunexcused : unexcusedNotFound round minBlock tally =
            unexcusedNotFound (round.reordered completions) minBlock others := by
          rw [unexcusedNotFound, unexcusedNotFound, highestCandidateBlock_congr hsame.blocks]
          rfl
        dsimp only
        rw [resolveCandidates, resolveCandidates, hsame.votes, hsame.size, hunexcused]
        exact .error .refl

end Receipts

/-! ## Gas estimates -/

section Estimates

variable {answers : Fin total → Answer UInt64} {order : List (Fin total)}

/-- What a probe adds to each accumulator. -/
def GasProbe.estimate : GasProbe → Option UInt64
  | .gas value => some value
  | .revert _ => none
  | .transient _ => none

def GasProbe.reverted : GasProbe → Option ErrorChain
  | .gas _ => none
  | .revert err => some err
  | .transient _ => none

def GasProbe.failure : GasProbe → Option ErrorChain
  | .gas _ => none
  | .revert _ => none
  | .transient err => some err

theorem collectGas_eq : collectGas answers order =
      ⟨order.filterMap fun index : Fin total =>
          (gasProbe index (answers index)).estimate,
        order.filterMap fun index : Fin total =>
          (gasProbe index (answers index)).reverted,
        order.filterMap fun index : Fin total =>
          (gasProbe index (answers index)).failure⟩ := by
  induction order with
  | nil => rfl
  | cons index rest ih =>
    rw [collectGas, ih, filterMap_cons, filterMap_cons, filterMap_cons]
    cases gasProbe index (answers index) with
    | gas gas | revert err | transient err => rfl

theorem collectGas_perm {left right : List (Fin total)} (hperm : left.Perm right) :
    (collectGas answers left).successes.Perm (collectGas answers right).successes ∧
      (collectGas answers left).reverts.Perm (collectGas answers right).reverts ∧
      (collectGas answers left).transientErrs.Perm (collectGas answers right).transientErrs := by
  rw [collectGas_eq, collectGas_eq]
  exact ⟨hperm.filterMap _, hperm.filterMap _, hperm.filterMap _⟩

theorem boundedSet_perm {left right : List UInt64} (hperm : left.Perm right) :
    (boundedSet left).Perm (boundedSet right) := by
  have hsorted : left.insertionSort (· ≤ ·) = right.insertionSort (· ≤ ·) :=
    (((perm_insertionSort _ _).trans hperm).trans
      (perm_insertionSort _ _).symm).eq_of_pairwise
        (fun _ _ _ _ hle hge => UInt64.le_antisymm hle hge)
        (pairwise_insertionSort _ _) (pairwise_insertionSort _ _)
  rw [boundedSet, boundedSet, hsorted]
  exact hperm.filter _

theorem toNat_max {left right : UInt64} : (max left right).toNat = max left.toNat right.toNat := by
  change (if left ≤ right then right else left).toNat = _
  simp only [UInt64.le_iff_toNat_le]
  split <;> omega

theorem max_right_comm_uint64 (first second third : UInt64) :
    max (max first second) third = max (max first third) second := by
  rw [← UInt64.toNat_inj, toNat_max, toNat_max, toNat_max, toNat_max]
  omega

theorem boundedEstimate_perm {left right : List UInt64} (hperm : left.Perm right) {quorum : ℕ}
    {blockGasLimit : UInt64} : boundedEstimate chainName quorum blockGasLimit left =
      boundedEstimate chainName quorum blockGasLimit right := by
  have hbounds := boundedSet_perm hperm
  have hmax : (boundedSet left).foldl max 0 = (boundedSet right).foldl max 0 :=
    @List.Perm.foldl_eq _ _ _ _ _ ⟨max_right_comm_uint64⟩ hbounds 0
  rw [boundedEstimate, boundedEstimate, hmax, hbounds.length_eq, hperm.length_eq]

theorem countP_reverts (hcomplete : order.Perm (List.finRange total)) :
    ((collectGas answers order).reverts.countP fun other =>
        revertFingerprint other = fingerprint) =
      (supporters (revertVote answers) fingerprint).card := by
  rw [← countP_votes hcomplete, ← collectGas_fingerprints, countP_map]
  rfl

theorem winningRevert_ends (answers : Fin total → Answer UInt64)
    (hcomplete : order.Perm (List.finRange total)) :
    Ends (revertVote answers) revertFingerprint
      (winningRevert (majority total) (collectGas answers order).reverts = some ·)
      (winningRevert (majority total) (collectGas answers order).reverts = none) := by
  cases hwinner : winningRevert (majority total) (collectGas answers order).reverts with
  | some winner =>
    have htest := List.find?_some hwinner
    refine .inl ⟨winner, rfl, ?_⟩
    rw [← countP_reverts hcomplete]
    exact of_decide_eq_true htest
  | none =>
    refine .inr ⟨rfl, fun fingerprint => ?_⟩
    rw [← countP_reverts hcomplete]
    by_contra hmajority
    rw [Nat.not_lt] at hmajority
    obtain ⟨err, herr, hidentity⟩ := countP_pos_iff.mp ((Nat.succ_pos _).trans_le hmajority)
    rw [← of_decide_eq_true hidentity] at hmajority
    exact List.find?_eq_none.mp hwinner err herr (decide_eq_true hmajority)

/-- The votes of two orders of completion lead to the same end. -/
theorem resolveGas_reordered (chainName : String) (blockGasLimit : UInt64)
    (round : EstimateRound total) (completions : Completions total) :
    SameResult (EstimateClass chainName) (· = ·)
      (resolveGas chainName (majority total) blockGasLimit (collectGas round.answers round.order))
      (resolveGas chainName (majority total) blockGasLimit
        (collectGas round.answers completions.order)) := by
  obtain ⟨hsuccesses, hreverts, hfailures⟩ := @collectGas_perm _ round.answers _ _
    (round.complete.trans completions.complete.symm)
  rw [resolveGas, resolveGas]
  refine (winningRevert_ends round.answers round.complete).alike
    (winningRevert_ends round.answers completions.complete) ?_ ?_
  · intro winner other hsame hleft hright
    rw [hleft, hright]
    exact .error (.voted hsame)
  · intro hleft hright
    rw [hleft, hright]
    dsimp only
    rw [hsuccesses.length_eq, hreverts.length_eq, boundedEstimate_perm hsuccesses]
    split
    · cases boundedEstimate chainName (majority total) blockGasLimit
          (collectGas round.answers completions.order).successes with
      | ok gas => exact .ok rfl
      | error err => exact .error .refl
    · split
      · exact .error .refl
      · exact .error (.quorumUnavailable ((hfailures.map _).append_right _))

theorem estimateGas_reordered (chainName : String) (round : EstimateRound total)
    (completions : Completions total) :
    SameResult (EstimateClass chainName) (· = ·) (estimateGas chainName round)
      (estimateGas chainName (round.reordered completions)) := by
  rw [estimateGas, estimateGas]
  dsimp only [EstimateRound.reordered]
  cases headerByNumber chainName round.header with
  | error err => exact .error .refl
  | ok header =>
    dsimp only
    by_cases htotal : total = 0
    · rw [if_pos htotal, if_pos htotal]
      exact .error .refl
    · rw [if_neg htotal, if_neg htotal]
      exact resolveGas_reordered chainName header.gasLimit round completions

end Estimates

/-- Every quorum read ends in the same class of result for the same answers, in
whatever order the probes complete and whatever the cancelled ones return; a
value it returns is the same up to the fingerprint it was voted on by. -/
theorem reads_independent_of_completions {total : ℕ} (sha256 : Bytes → Hash) (chainName : String)
    (completions : Completions total) :
    (∀ (account : Address) (round : PollRound total UInt64), SameResult ReadError.SameClass (· = ·)
        (nonceAt chainName account round)
        (nonceAt chainName account (round.reordered completions))) ∧
    (∀ (blockNumber : Option ℕ) (round : PollRound total Hash),
      SameResult ReadError.SameClass (· = ·) (canonicalHashAt chainName blockNumber round)
        (canonicalHashAt chainName blockNumber (round.reordered completions))) ∧
    (∀ (operation : String) (round : StateRound total) (cancelled : Fin total → Answer Bytes),
      SameResult ReadError.SameClass (fun left right => sha256 left = sha256 right)
        (voteStateRead sha256 operation chainName round)
        (voteStateRead sha256 operation chainName (round.reordered completions cancelled))) ∧
    (∀ (round : ReceiptRound total) (txHash : Hash) (minBlock : Option ℕ),
      SameResult ReceiptError.SameClass
        (fun left right => receiptFingerprint left = receiptFingerprint right)
        (transactionReceiptAt chainName round txHash minBlock)
        (transactionReceiptAt chainName (round.reordered completions) txHash minBlock)) ∧
    (∀ round : EstimateRound total, SameResult (EstimateClass chainName) (· = ·)
        (estimateGas chainName round) (estimateGas chainName (round.reordered completions))) := by
  refine ⟨?_, ?_, ?_, ?_, ?_⟩
  · intro account round
    exact voteByValue_reordered (fun _ => .nonceConflict) round completions
  · intro blockNumber round
    cases blockNumber with
    | none => exact .error .noBlockNumber
    | some number =>
      rw [canonicalHashAt, canonicalHashAt]
      exact voteByValue_reordered (fun _ => .headConflict) round completions
  · intro operation round cancelled
    exact voteStateRead_reordered sha256 operation chainName round completions cancelled
  · intro round txHash minBlock
    exact transactionReceiptAt_reordered chainName round completions txHash minBlock
  · intro round
    exact estimateGas_reordered chainName round completions

theorem voteByValue_ok_iff {Value : Type} [DecidableEq Value] {failure : String}
    {summary : ℕ → String} {render : Value → String} {conflict : List String → ReadError}
    {round : PollRound total Value} {value : Value} :
    voteByValue chainName failure summary render conflict round = .ok value ↔
      majority total ≤ (supporters round.answers value).card := by
  rcases poll_ends round with ⟨winner, hwon, hquorum⟩ | ⟨hnone, hminority⟩
  · have htotal : total ≠ 0 := by
      rintro rfl
      exact absurd (hquorum.trans (Finset.card_le_univ _)) (by decide)
    rw [voteByValue, if_neg htotal, hwon, Except.ok.injEq]
    exact ⟨fun hsame => hsame ▸ hquorum, majority_unique hquorum⟩
  · refine ⟨fun hok => ?_, fun hquorum => absurd hquorum (hminority value).not_ge⟩
    rw [voteByValue, hnone] at hok
    dsimp only at hok
    repeat' split at hok
    all_goals cases hok

/-- The polls of nonces and of block hashes return a value exactly when a majority
of the configured providers gave it. -/
theorem polls_return_majorities (chainName : String) :
    (∀ account (round : PollRound total UInt64) nonce,
      nonceAt chainName account round = .ok nonce ↔
        majority total ≤ (supporters round.answers nonce).card) ∧
    ∀ number (round : PollRound total Hash) hash,
      canonicalHashAt chainName (some number) round = .ok hash ↔
        majority total ≤ (supporters round.answers hash).card := by
  refine ⟨fun _ _ _ => voteByValue_ok_iff, fun _ _ _ => ?_⟩
  rw [canonicalHashAt]
  exact voteByValue_ok_iff

end Lazier.Quorum
