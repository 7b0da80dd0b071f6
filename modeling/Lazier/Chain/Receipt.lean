import Lazier.Store.Bytes

/-!
# Transaction receipts

The receipt and log types of the Ethereum client library, with the fields that
the workers read, and the fingerprint under which providers' receipts are
compared.
-/

namespace Lazier.Chain

open Library Store List FixedBytes

structure Log where
  address : Address
  topics : List Hash
  data : Bytes
  blockNumber : ℕ
  txHash : Hash
  blockHash : Hash
  index : ℕ
  deriving DecidableEq

/-- The optional fields and the entries of `logs` are pointers in Go. -/
structure Receipt where
  txHash : Hash
  status : ℕ
  blockNumber : Option ℕ
  blockHash : Hash
  gasUsed : ℕ
  effectiveGasPrice : Option ℕ
  logs : List (Option Log)
  deriving DecidableEq

/-! ## Fingerprints -/

/-- `String` of an optional big integer; nothing is written for `nil`. -/
def optionalText : Option ℕ → String
  | none => ""
  | some number => toString number

/-- One log of a fingerprint. -/
def logText : Option Log → String
  | none => "|<nil>"
  | some log =>
    "|" ++ log.address.hex ++ "/" ++ log.txHash.hex ++ "/" ++
      toString log.index ++ "/" ++ toString log.blockNumber ++ "/" ++
      log.blockHash.hex ++ "/" ++ hexBytes log.data ++
      String.join (log.topics.map fun topic => "/" ++ topic.hex)

/-- `receiptFingerprint`. -/
def receiptFingerprint (receipt : Receipt) : String :=
  receipt.txHash.hex ++ "|status=" ++ toString receipt.status ++
    "|block=" ++ optionalText receipt.blockNumber ++ "|block_hash=" ++ receipt.blockHash.hex ++
    "|gas_used=" ++ toString receipt.gasUsed ++
    "|effective_gas_price=" ++ optionalText receipt.effectiveGasPrice ++
    "|logs=" ++ toString receipt.logs.length ++ String.join (receipt.logs.map logText)

/-! ## Fields of a fingerprint -/

theorem not_mem_toString {mark : Char} (hmark : mark = '|' ∨ mark = '/') (number : ℕ) :
    mark ∉ (toString number).toList := by
  intro hmem
  have hdigits : (toString number).toList = Nat.toDigits 10 number := String.toList_ofList
  rw [hdigits] at hmem
  have hdigit := Nat.isDigit_of_mem_toDigits (by decide) (by decide) hmem
  rcases hmark with rfl | rfl <;> exact absurd hdigit (by decide)

theorem bar_not_mem_optionalText {number : Option ℕ} : '|' ∉ (optionalText number).toList := by
  cases number with
  | none => simp [optionalText]
  | some number => exact not_mem_toString (.inl rfl) number

theorem optionalText_injective : Function.Injective optionalText := by
  intro left right heq
  cases left with
  | none | some left => cases right <;> simp_all [optionalText]

/-- What stands between the slashes of a log. -/
def logPieces (log : Log) : List (List Char) :=
  log.address.hex.toList :: log.txHash.hex.toList :: (toString log.index).toList ::
    (toString log.blockNumber).toList :: log.blockHash.hex.toList ::
    (hexBytes log.data).toList :: log.topics.map fun topic => topic.hex.toList

/-- The text of a log behind its bar. -/
def logBody : Option Log → List Char
  | none => "<nil>".toList
  | some log => ['/'].intercalate (logPieces log)

theorem toList_logText {log : Option Log} : (logText log).toList = '|' :: logBody log := by
  cases log with
  | none => rfl
  | some log => simp [logText, logBody, logPieces, intercalate_cons, flatMap_map]

theorem mem_logPieces {mark : Char} (hmark : mark = '|' ∨ mark = '/') {log : Log}
    {piece : List Char} (hpiece : piece ∈ logPieces log) : mark ∉ piece := by
  simp only [logPieces, mem_cons, mem_map] at hpiece
  rcases hpiece with rfl | rfl | rfl | rfl | rfl | rfl | ⟨topic, -, rfl⟩
  · exact Address.not_mem_hex hmark
  · exact not_mem_hex hmark
  · exact not_mem_toString hmark _
  · exact not_mem_toString hmark _
  · exact not_mem_hex hmark
  · exact not_mem_hexBytes hmark _
  · exact not_mem_hex hmark

theorem logPieces_injective : Function.Injective logPieces := by
  intro left right heq
  simp only [logPieces, List.cons.injEq, String.toList_inj, Address.hex_injective.eq_iff,
    hex_injective.eq_iff, hexBytes_injective.eq_iff, Nat.repr_inj,
    Nat.toString_eq_repr] at heq
  obtain ⟨haddress, htxHash, hindex, hblock, hblockHash, hdata, htopics⟩ := heq
  have hhex : Function.Injective fun topic : Hash => topic.hex.toList :=
    fun _ _ heq => hex_injective (String.toList_inj.mp heq)
  have htopics := map_injective_iff.mpr hhex htopics
  cases left
  cases right
  simp_all

theorem bar_not_mem_logBody (log : Option Log) : '|' ∉ logBody log := by
  cases log with
  | none => decide
  | some log =>
    rw [logBody, logPieces, intercalate_cons, mem_append, mem_flatMap]
    rintro (hfirst | ⟨piece, hpiece, hmem⟩)
    · exact Address.not_mem_hex (.inl rfl) hfirst
    · rcases mem_cons.mp hmem with hslash | hmem
      · exact absurd hslash (by decide)
      · exact mem_logPieces (.inl rfl) (mem_cons_of_mem _ hpiece) hmem

theorem logBody_some_ne {log : Log} : logBody (some log) ≠ logBody none := by
  simp [logBody, logPieces, intercalate_cons, Address.hex]

theorem logBody_injective : Function.Injective logBody := by
  intro left right heq
  cases left with
  | none =>
    cases right with
    | none => rfl
    | some right => exact absurd heq.symm logBody_some_ne
  | some left =>
    cases right with
    | none => exact absurd heq logBody_some_ne
    | some right =>
      have hpieces := pieces_inj (fun _ => mem_logPieces (.inr rfl))
        (fun _ => mem_logPieces (.inr rfl)) (cons_ne_nil _ _) (cons_ne_nil _ _) heq
      exact congrArg some (logPieces_injective hpieces)

/-- What stands between the bars of a fingerprint. -/
def receiptPieces (receipt : Receipt) : List (List Char) :=
  receipt.txHash.hex.toList :: ("status=".toList ++ (toString receipt.status).toList) ::
    ("block=".toList ++ (optionalText receipt.blockNumber).toList) ::
    ("block_hash=".toList ++ receipt.blockHash.hex.toList) ::
    ("gas_used=".toList ++ (toString receipt.gasUsed).toList) ::
    ("effective_gas_price=".toList ++ (optionalText receipt.effectiveGasPrice).toList) ::
    ("logs=".toList ++ (toString receipt.logs.length).toList) :: receipt.logs.map logBody

theorem toList_receiptFingerprint {receipt : Receipt} :
    (receiptFingerprint receipt).toList = ['|'].intercalate (receiptPieces receipt) := by
  simp [receiptFingerprint, receiptPieces, intercalate_cons, flatMap_map, toList_logText]

theorem mem_receiptPieces {receipt : Receipt} {piece : List Char}
    (hpiece : piece ∈ receiptPieces receipt) : '|' ∉ piece := by
  have hfield : ∀ {name : String} {value : List Char}, '|' ∉ name.toList → '|' ∉ value →
      '|' ∉ name.toList ++ value := by
    intro name value hname hvalue
    rw [mem_append]
    exact not_or.mpr ⟨hname, hvalue⟩
  simp only [receiptPieces, mem_cons, mem_map] at hpiece
  rcases hpiece with rfl | rfl | rfl | rfl | rfl | rfl | rfl | ⟨log, -, rfl⟩
  · exact not_mem_hex (.inl rfl)
  · exact hfield (by decide) (not_mem_toString (.inl rfl) _)
  · exact hfield (by decide) bar_not_mem_optionalText
  · exact hfield (by decide) (not_mem_hex (.inl rfl))
  · exact hfield (by decide) (not_mem_toString (.inl rfl) _)
  · exact hfield (by decide) bar_not_mem_optionalText
  · exact hfield (by decide) (not_mem_toString (.inl rfl) _)
  · exact bar_not_mem_logBody log

theorem receiptFingerprint_injective : Function.Injective receiptFingerprint := by
  intro left right heq
  have htexts := congrArg String.toList heq
  rw [toList_receiptFingerprint, toList_receiptFingerprint] at htexts
  have hpieces := pieces_inj (fun _ => mem_receiptPieces) (fun _ => mem_receiptPieces)
    (cons_ne_nil _ _) (cons_ne_nil _ _) htexts
  simp only [receiptPieces, List.cons.injEq, append_cancel_left_eq, String.toList_inj,
    hex_injective.eq_iff, optionalText_injective.eq_iff, Nat.repr_inj,
    Nat.toString_eq_repr] at hpieces
  obtain ⟨htxHash, hstatus, hblock, hblockHash, hgas, hprice, -, hlogs⟩ := hpieces
  have hlogs := map_injective_iff.mpr logBody_injective hlogs
  cases left
  cases right
  simp_all

end Lazier.Chain
