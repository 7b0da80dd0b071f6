import Lazier.Library.Words
import Lazier.Quorum.Reads

/-!
# Reading an error as a revert

`isEstimateGasRevert` looks at a whole error chain: a voted revert, revert
data, code 3 or revert text anywhere in it each suffice.  The client's own
texts never hold the word by themselves.  What is left is the chain's
configured name, which the aggregated errors repeat, and the error of a single
provider, which the wrapped ones expose.
-/

namespace Lazier.Manager

open Library Quorum Store

variable {left right text : String} {details : List String}

/-! ## The classifier -/

/-- `containsRevertText`. -/
def containsRevertText (value : List Char) : Bool :=
  contains (toLower value) "execution reverted" || contains (toLower value) "reverted"

/-- `isRevertErrorData`. -/
def isRevertErrorData : ErrorData → Bool
  | .text value =>
    let normalized := toLower (trimSpace value.toList)
    "0x".toList.isPrefixOf normalized || containsRevertText normalized
  | .bytes value => decide (value ≠ [])
  | .other => false

/-- `errorChainContainsRevertText`. -/
def errorChainContainsRevertText (chain : ErrorChain) : Bool :=
  chain.any fun node => containsRevertText node.text.toList

/-- `isEstimateGasRevert`. -/
def isEstimateGasRevert (err : GoError) : Bool :=
  err.votedRevert || err.chain.errorData.any isRevertErrorData ||
    (err.chain.rpcError.any fun node => node.code = some 3) ||
    errorChainContainsRevertText err.chain

/-! ## Texts without the word -/

def revertWord : List Char := ['r', 'e', 'v', 'e', 'r', 't', 'e', 'd']

theorem containsRevertText_eq {value : List Char} :
    containsRevertText value = decide (revertWord <:+: toLower value) := by
  rw [containsRevertText, contains, contains]
  have hlonger : "reverted".toList <:+: "execution reverted".toList := by
    decide +kernel
  by_cases hword : revertWord <:+: toLower value
  · rw [decide_eq_true hword]
    exact Bool.or_eq_true_iff.mpr (.inr (decide_eq_true hword))
  · rw [decide_eq_false hword, Bool.or_eq_false_iff]
    exact ⟨decide_eq_false fun hlong => hword (hlonger.trans hlong), decide_eq_false hword⟩

/-- A text that does not read as a revert. -/
def Plain (text : String) : Prop := containsRevertText text.toList = false

/-- A plain text whose start cannot complete the word. -/
structure Opens (text : String) : Prop where
  plain : Plain text
  starts : StartsOutside revertWord (toLower text.toList)

/-- A plain text whose end cannot begin the word. -/
structure Closes (text : String) : Prop where
  plain : Plain text
  ends : EndsOutside revertWord (toLower text.toList)

instance (text : String) : Decidable (Plain text) := inferInstanceAs (Decidable (_ = false))

instance (text : String) : Decidable (Opens text) :=
  decidable_of_iff (Plain text ∧ StartsOutside revertWord
    (toLower text.toList)) ⟨fun h => ⟨h.1, h.2⟩, fun h => ⟨h.1, h.2⟩⟩

instance (text : String) : Decidable (Closes text) :=
  decidable_of_iff (Plain text ∧ EndsOutside revertWord
    (toLower text.toList)) ⟨fun h => ⟨h.1, h.2⟩, fun h => ⟨h.1, h.2⟩⟩

theorem containsRevertText_append (hseam : EndsOutside revertWord (toLower left.toList) ∨
      StartsOutside revertWord (toLower right.toList)) : containsRevertText (left ++ right).toList =
      (containsRevertText left.toList || containsRevertText right.toList) := by
  rw [containsRevertText_eq, containsRevertText_eq, containsRevertText_eq,
    String.toList_append, toLower, List.map_append, ← Bool.decide_or, decide_eq_decide]
  exact infix_append_of_seam hseam

theorem plain_append (hleft : Closes left) (hright : Plain right) : Plain (left ++ right) := by
  rw [Plain, containsRevertText_append (.inl hleft.ends), hleft.plain, hright, Bool.or_false]

theorem plain_append_opens (hleft : Plain left) (hright : Opens right) : Plain (left ++ right) := by
  rw [Plain, containsRevertText_append (.inr hright.starts), hleft, hright.plain, Bool.or_false]

theorem closes_append (hleft : Closes left) (hright : Closes right) : Closes (left ++ right) := by
  refine ⟨plain_append hleft hright.plain, ?_⟩
  rw [String.toList_append, toLower, List.map_append]
  by_cases hempty : right.toList.map Unicode.toLower = []
  · rw [hempty, List.append_nil]
    exact hleft.ends
  · exact hright.ends.append hempty

theorem opens_append (hleft : Opens left) (hplain : Plain (left ++ right))
    (hne : left.toList ≠ []) :
    Opens (left ++ right) := by
  refine ⟨hplain, ?_⟩
  rw [String.toList_append, toLower, List.map_append]
  exact hleft.starts.append fun hempty => hne (List.map_eq_nil_iff.mp hempty)

/-- Behind any plain text, a separator on both sides of which the word ends. -/
theorem closes_separated (hleft : Plain left) (hopens : Opens right) (hcloses : Closes right)
    (hne : right.toList ≠ []) : Closes (left ++ right) := by
  refine ⟨plain_append_opens hleft hopens, ?_⟩
  rw [String.toList_append, toLower, List.map_append]
  exact hcloses.ends.append fun hempty => hne (List.map_eq_nil_iff.mp hempty)

/-- A name between plain texts is all that can read as a revert. -/
theorem containsRevertText_framed {name : String} (hleft : Closes left) (hright : Opens right) :
    containsRevertText (left ++ name ++ right).toList = containsRevertText name.toList := by
  rw [containsRevertText_append (.inr hright.starts),
    containsRevertText_append (.inl hleft.ends), hleft.plain, hright.plain,
    Bool.or_false, Bool.false_or]

/-! ## Numbers and hashes -/

theorem isAlpha_of_isDigit {char : Char} (hdigit : char.isDigit = true) : char.isAlpha = false := by
  simp only [Char.isDigit, Char.isAlpha, Char.isUpper, Char.isLower,
    Bool.and_eq_true, decide_eq_true_eq, UInt32.le_iff_toNat_le] at *
  simp at *
  omega

theorem lt_of_isDigit {char : Char} (hdigit : char.isDigit = true) : char.toNat < 0x80 := by
  rw [Char.isDigit, Bool.and_eq_true, decide_eq_true_eq, decide_eq_true_eq] at hdigit
  exact (UInt32.le_iff_toNat_le.mp hdigit.2).trans_lt (by decide)

theorem not_mem_revertWord_of_isDigit {char : Char}
    (hdigit : char.isDigit = true) : Unicode.toLower char ∉ revertWord := by
  rw [Unicode.toLower_ascii (lt_of_isDigit hdigit)]
  intro hmem
  have hletters : ∀ letter ∈ revertWord, letter.isAlpha = true := by
    simp [revertWord]
  have halpha := hletters _ hmem
  rw [Char.isAlpha_toLower_eq_isAlpha, isAlpha_of_isDigit hdigit] at halpha
  cases halpha

theorem digits_outside {number : ℕ} {letter : Char}
    (hletter : letter ∈ toLower (toString number).toList) : letter ∉ revertWord := by
  obtain ⟨digit, hdigit, rfl⟩ := List.mem_map.mp hletter
  refine not_mem_revertWord_of_isDigit ?_
  have hdigits : (toString number).toList = Nat.toDigits 10 number := String.toList_ofList
  rw [hdigits] at hdigit
  exact Nat.isDigit_of_mem_toDigits (by decide) (by decide) hdigit

theorem plain_of_lacks (letter : Char) (hword : letter ∈ revertWord)
    (hlacks : letter ∉ toLower text.toList) : Plain text := by
  rw [Plain, containsRevertText_eq]
  exact decide_eq_false fun hoccurs => hlacks (hoccurs.subset hword)

theorem plain_toString (number : ℕ) : Plain (toString number) :=
  plain_of_lacks 'v' (by simp [revertWord]) fun hletter =>
    digits_outside hletter (by simp [revertWord])

theorem closes_toString (number : ℕ) : Closes (toString number) :=
  ⟨plain_toString number, fun _ hletter =>
    digits_outside (List.mem_of_getLast? hletter)⟩

theorem hexDigit_ne {digit : ℕ} (hdigit : digit < 16) :
    Unicode.toLower (FixedBytes.hexDigit digit) ≠ 'v' := by
  interval_cases digit <;> decide

theorem plain_hex {width : ℕ} (value : FixedBytes width) : Plain value.hex := by
  refine plain_of_lacks 'v' (by simp [revertWord]) ?_
  intro hletter
  obtain ⟨char, hchar, hlower⟩ := List.mem_map.mp hletter
  rw [FixedBytes.hex, String.toList_append, List.mem_append] at hchar
  rcases hchar with hstart | hdigits
  · have hstarts : ∀ char ∈ "0x".toList, Unicode.toLower char ≠ 'v' := by
      simp [Unicode.toLower]
    exact hstarts char hstart hlower
  · rw [FixedBytes.hexBytes, String.toList_ofList, List.mem_flatMap] at hdigits
    obtain ⟨byte, -, hdigit⟩ := hdigits
    have hbyte := byte.toNat_lt
    simp only [List.mem_cons, List.not_mem_nil, or_false] at hdigit
    rcases hdigit with rfl | rfl
    · exact hexDigit_ne (by omega) hlower
    · exact hexDigit_ne (by omega) hlower

/-! ## The client's texts -/

/-- The words of the client's own errors that other text may follow. -/
def closingTexts : List String :=
  ["provider[", "]", " ", "; ", ": ", "rpc quorum unavailable for chain ",
    " at block ", "rpc head quorum conflict for chain ", "chain ",
    " gas estimate has no bounded majority: ", " returned ", " of ",
    " configured providers responded, quorum is ",
    " configured providers served the canonical height, quorum is ",
    "outbox tx ", "no healthy provider served the canonical header for chain ",
    "-", "latest block base fee is negative: ", " comparable answers, quorum is ", "only ",
    " estimates fall within the bounded set, need ", "bounded estimate ",
    " exceeds the canonical block gas limit ", "neither ",
    " successes nor any revert identity reached the majority of "]

/-- Those that may follow other text. -/
def openingTexts : List String :=
  [" failed", "; ", "", ": ", " at block ", " gas estimate has no bounded majority: ",
    " legacy gas price is required", " priority fee per gas is required",
    " previous max fee per gas must be positive for replacement",
    " previous priority fee per gas must be positive for replacement", " estimated gas is zero"]

/-- Those that stand alone or behind a closing text. -/
def plainTexts : List String :=
  ["", " head unavailable", " canonical header unavailable", "connect",
    "eth_estimateGas", "eth_gasPrice", "eth_getBlockByNumber",
    "eth_maxPriorityFeePerGas", "max fee per gas cap is required",
    "max priority fee per gas cap is required for dynamic-fee chains",
    "no healthy rpc providers configured", "no rpc providers configured"]

attribute [simp] closingTexts openingTexts plainTexts

theorem closes_of_mem (htext : text ∈ closingTexts) : Closes text := by
  have hall : ∀ text ∈ closingTexts, Closes text := by decide +kernel
  exact hall text htext

theorem opens_of_mem (htext : text ∈ openingTexts) : Opens text := by
  have hall : ∀ text ∈ openingTexts, Opens text := by decide +kernel
  exact hall text htext

theorem plain_of_mem (htext : text ∈ plainTexts) : Plain text := by
  have hall : ∀ text ∈ plainTexts, Plain text := by decide +kernel
  exact hall text htext

theorem closes_providerID (index : ℕ) : Closes (providerID index) := closes_append (closes_append
      (closes_of_mem (by simp [toString])) (closes_toString index))
    (closes_of_mem (by simp [toString]))

theorem plain_wrapped (index : ℕ) {operation : String} (hoperation : Plain operation) :
    Plain (providerID index ++ " " ++ operation ++ " failed") := plain_append_opens
    (plain_append (closes_append (closes_providerID index)
      (closes_of_mem (by simp))) hoperation) (opens_of_mem (by simp))

theorem isEstimateGasRevert_wrapped (index : ℕ) {operation : String}
    (cause : ErrorChain) (hoperation : Plain operation) : isEstimateGasRevert
        (.ofChain (wrapProviderOperationError index operation cause)) =
      isEstimateGasRevert (.ofChain cause) := by
  have hplain := plain_wrapped index hoperation
  rw [Plain] at hplain
  unfold isEstimateGasRevert errorChainContainsRevertText
  dsimp only [GoError.ofChain]
  rw [errorData_wrapped, rpcError_wrapped, wrapProviderOperationError,
    List.any_cons, hplain, Bool.false_or, Bool.false_or]

theorem isEstimateGasRevert_new (text : String) :
    isEstimateGasRevert (.new text) = containsRevertText text.toList := by
  unfold isEstimateGasRevert errorChainContainsRevertText GoError.new
  simp [ErrorChain.errorData, ErrorChain.rpcError]

theorem plain_joinDetails (hplain : ∀ detail ∈ details, Plain detail) :
    Plain (joinDetails details) := by
  fun_induction joinDetails details with
  | case1 => exact plain_of_mem (by simp)
  | case2 detail => exact hplain detail List.mem_cons_self
  | case3 detail rest hrest ih =>
    refine plain_append (closes_separated (hplain detail List.mem_cons_self)
      (opens_of_mem (by simp))
      (closes_of_mem (by simp)) (by simp)) (ih ?_)
    intro other hother
    exact hplain other (List.mem_cons_of_mem detail hother)

theorem opens_detailSuffix (hplain : ∀ detail ∈ details, Plain detail) :
    Opens (detailSuffix details) := by
  unfold detailSuffix
  split
  · exact opens_of_mem (by simp)
  · exact opens_append (opens_of_mem (by simp))
      (plain_append (closes_of_mem (by simp)) (plain_joinDetails hplain)) (by simp)

section ChainName

variable (chainName : String)

theorem quorumUnavailable_reads (hplain : ∀ detail ∈ details, Plain detail) :
    containsRevertText (quorumUnavailableText chainName details).toList =
      containsRevertText chainName.toList :=
  containsRevertText_framed (closes_of_mem (by simp)) (opens_detailSuffix hplain)

theorem headConflict_reads {number : ℕ} (hplain : ∀ detail ∈ details, Plain detail) :
    containsRevertText (headConflictText chainName number details).toList =
      containsRevertText chainName.toList := by
  have hblock : Closes (" at block " ++ toString number) :=
    closes_append (closes_of_mem (by simp)) (closes_toString number)
  have hopens : Opens (" at block " ++ toString number) :=
    opens_append (opens_of_mem (by simp)) hblock.plain (by simp)
  refine containsRevertText_framed (closes_of_mem (by simp)) (opens_append hopens
    (plain_append hblock (opens_detailSuffix hplain).plain) ?_)
  simp

theorem estimateGasConflict_reads {detail : String} (hplain : Plain detail) :
    containsRevertText (estimateGasConflictText chainName detail).toList =
      containsRevertText chainName.toList :=
  containsRevertText_framed (closes_of_mem (by simp))
    (opens_append (opens_of_mem (by simp))
      (plain_append (closes_of_mem (by simp)) hplain) (by simp))

end ChainName

/-! ## Head checks -/

section Heads

variable {total : ℕ} (answers : HeadAnswers total)

theorem plain_tipFailures : ∀ detail ∈ tipFailures answers, Plain detail := by
  intro detail hdetail
  obtain ⟨index, -, hindex⟩ := List.mem_filterMap.mp hdetail
  obtain ⟨-, htext⟩ := Option.ite_none_right_eq_some.mp hindex
  cases htext
  exact plain_append (closes_providerID index) (plain_of_mem (by simp [toString]))

theorem plain_headerFailures (height : ℕ) :
    ∀ detail ∈ headerFailures answers height, Plain detail := by
  intro detail hdetail
  obtain ⟨index, -, hindex⟩ := List.mem_filterMap.mp hdetail
  split at hindex
  · cases hindex
  obtain ⟨-, htext⟩ := Option.ite_none_right_eq_some.mp hindex
  cases htext
  exact plain_append (closes_providerID index) (plain_of_mem (by simp [toString]))

theorem plain_conflictDetails (height : ℕ) :
    ∀ detail ∈ conflictDetails answers height, Plain detail := by
  intro detail hdetail
  rw [conflictDetails, List.mem_insertionSort] at hdetail
  obtain ⟨index, -, hindex⟩ := List.mem_filterMap.mp hdetail
  obtain ⟨hash, -, rfl⟩ := Option.map_eq_some_iff.mp hindex
  exact plain_append (closes_append (closes_providerID index)
    (closes_of_mem (by simp [toString]))) (plain_hex hash)

theorem plain_between {first middle : String} {count bound : ℕ} (hfirst : Closes first)
    (hmiddle : Closes middle) : Plain (first ++ toString count ++ middle ++ toString bound) :=
  plain_append (closes_append (closes_append hfirst (closes_toString _)) hmiddle) (plain_toString _)

/-- The count with which an unavailable quorum is reported. -/
theorem plain_count {count quorum : ℕ} {middle : String} (hmiddle : Closes middle) :
    Plain (toString count ++ " of " ++ toString total ++ middle ++ toString quorum) :=
  plain_between (closes_append (closes_toString count) (closes_of_mem (by simp))) hmiddle

theorem headError_reads {chainName : String} {err : HeadError}
    (hcheck : (checkHead answers chainName).result = .error err) (hproviders : err ≠ .noProviders) :
    containsRevertText err.text.toList = containsRevertText chainName.toList := by
  unfold checkHead at hcheck
  dsimp only at hcheck
  split at hcheck
  · cases hcheck
    exact absurd rfl hproviders
  split at hcheck
  · cases hcheck
    refine quorumUnavailable_reads chainName ?_
    intro detail hdetail
    rcases List.mem_append.mp hdetail with htip | hcount
    · exact plain_tipFailures answers detail htip
    · rw [List.mem_singleton.mp hcount]
      exact plain_count (closes_of_mem (by simp [toString]))
  split at hcheck
  · cases hcheck
  split at hcheck
  · cases hcheck
    refine quorumUnavailable_reads chainName ?_
    intro detail hdetail
    rcases List.mem_append.mp hdetail with hfailure | hcount
    · rcases List.mem_append.mp hfailure with htip | hheader
      · exact plain_tipFailures answers detail htip
      · exact plain_headerFailures answers _ detail hheader
    · rw [List.mem_singleton.mp hcount]
      exact plain_count (closes_of_mem (by simp [toString]))
  · cases hcheck
    exact headConflict_reads chainName (plain_conflictDetails answers _)

end Heads

end Lazier.Manager
