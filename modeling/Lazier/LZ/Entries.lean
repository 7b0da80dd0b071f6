import Lazier.LZ.Options

/-!
# Entries of an options string

A type-3 options string is a header and a concatenation of entries, each with
the id of the worker it is for.  The send library passes the entries of the
executor on to it without the header.  On both forms the decoder does the same
work, entry by entry.
-/

namespace Lazier.LZ

open Store List

/-- A well-formed entry: what follows the two bytes of its size fits them. -/
structure OptionEntry where
  workerID : UInt8
  optionType : UInt8
  payload : Bytes
  fits : payload.length + 1 < 2 ^ 16

namespace OptionEntry

/-- The option type and the payload. -/
def size (entry : OptionEntry) : ℕ := entry.payload.length + 1

def encode (entry : OptionEntry) : Bytes := entry.workerID :: UInt8.ofNat (entry.size / 256) ::
    UInt8.ofNat (entry.size % 256) :: entry.optionType :: entry.payload

theorem bigEndian_size {entry : OptionEntry} : bigEndian [UInt8.ofNat (entry.size / 256),
      UInt8.ofNat (entry.size % 256)] = entry.size := by
  have hfits := entry.fits
  have hsize : entry.size = entry.payload.length + 1 := rfl
  simp only [bigEndian, foldl_cons, foldl_nil, UInt8.toNat_ofNat']
  omega

end OptionEntry

def encodeEntries (entries : List OptionEntry) : Bytes := entries.flatMap OptionEntry.encode

/-- The options string that `PacketSent` carries. -/
def type3Options (entries : List OptionEntry) : Bytes := 0 :: 3 :: encodeEntries entries

/-- The part of it that the send library passes to the executor. -/
def executorStream (entries : List OptionEntry) : Bytes :=
  encodeEntries (entries.filter fun entry =>
    decide (entry.workerID = executorWorkerID))

/-! ## Decoding -/

/-- The rounds of the decoder, one for each entry. -/
def decodeEntries : List OptionEntry → Option ExecutorOptions → Except String ExecutorOptions
  | [], none => .error "missing lzReceive option"
  | [], some options => .ok options
  | entry :: rest, decoded =>
    match decodeExecutorOption entry.workerID entry.optionType entry.payload decoded with
    | .error error => .error error
    | .ok options => decodeEntries rest (some options)

theorem decodeExecutorOptionsFrom_entries (entries : List OptionEntry)
    (decoded : Option ExecutorOptions) {fuel : ℕ} (hfuel : (encodeEntries entries).length ≤ fuel) :
    decodeExecutorOptionsFrom fuel (encodeEntries entries) decoded =
      decodeEntries entries decoded := by
  induction entries generalizing decoded fuel with
  | nil => cases fuel <;> cases decoded <;> rfl
  | cons entry rest ih =>
    have hencoded : encodeEntries (entry :: rest) =
        entry.workerID :: UInt8.ofNat (entry.size / 256) ::
          UInt8.ofNat (entry.size % 256) :: entry.optionType ::
            (entry.payload ++ encodeEntries rest) := rfl
    have hlength : (encodeEntries (entry :: rest)).length =
        3 + entry.size + (encodeEntries rest).length := by
      rw [hencoded]
      simp only [length_cons, length_append, OptionEntry.size]
      omega
    obtain ⟨fuel, rfl⟩ : ∃ smaller, fuel = smaller + 1 := ⟨fuel - 1, by omega⟩
    have hsize : ¬ (entry.size = 0 ∨ (encodeEntries (entry :: rest)).length < 3 + entry.size) := by
      rw [hlength, OptionEntry.size]
      omega
    have hpayload : ((encodeEntries (entry :: rest)).drop 4).take
        (entry.size - 1) = entry.payload := by
      rw [hencoded]
      exact take_left
    have hrest : (encodeEntries (entry :: rest)).drop (3 + entry.size) = encodeEntries rest := by
      have hsplit : 3 + entry.size = entry.payload.length + 4 := by
        rw [OptionEntry.size]
        omega
      rw [hencoded, hsplit]
      exact drop_left
    rw [hencoded] at hsize hpayload hrest ⊢
    rw [decodeExecutorOptionsFrom, OptionEntry.bigEndian_size, if_neg hsize, hpayload, hrest,
      decodeEntries]
    cases decodeExecutorOption entry.workerID entry.optionType entry.payload decoded with
    | error error => rfl
    | ok options => exact ih (some options) (by omega)

theorem decodeExecutorOptions_type3 {entries : List OptionEntry} :
    decodeExecutorOptions (type3Options entries) = decodeEntries entries none := by
  have hheader : 2 ≤ (type3Options entries).length ∧
      bigEndian ((type3Options entries).take 2) = optionType3 := by
    refine ⟨?_, rfl⟩
    rw [type3Options, length_cons, length_cons]
    omega
  rw [decodeExecutorOptions, if_pos hheader]
  exact decodeExecutorOptionsFrom_entries entries none le_rfl

/-- A stream that starts with the executor's id is not taken for the header. -/
theorem decodeExecutorOptions_encodeEntries {entries : List OptionEntry}
    (hworkers : ∀ entry ∈ entries, entry.workerID = executorWorkerID) :
    decodeExecutorOptions (encodeEntries entries) = decodeEntries entries none := by
  have hheader : ¬ (2 ≤ (encodeEntries entries).length ∧
      bigEndian ((encodeEntries entries).take 2) = optionType3) := by
    rintro ⟨-, htype⟩
    cases entries with
    | nil => cases htype
    | cons entry rest =>
      have hstart : (encodeEntries (entry :: rest)).take 2 =
          [executorWorkerID, UInt8.ofNat (entry.size / 256)] := by
        rw [← hworkers entry mem_cons_self]
        rfl
      rw [hstart] at htype
      simp only [bigEndian, foldl_cons, foldl_nil,
        executorWorkerID, optionType3, UInt8.toNat_one] at htype
      omega
  rw [decodeExecutorOptions, if_neg hheader]
  exact decodeExecutorOptionsFrom_entries entries none le_rfl

theorem decodeExecutorOptions_executorStream {entries : List OptionEntry} :
    decodeExecutorOptions (executorStream entries) = decodeEntries (entries.filter fun entry =>
        decide (entry.workerID = executorWorkerID)) none := by
  refine decodeExecutorOptions_encodeEntries ?_
  intro entry hentry
  exact of_decide_eq_true (mem_filter.mp hentry).2

theorem workers_of_decodeEntries {entries : List OptionEntry} {decoded : Option ExecutorOptions}
    {options : ExecutorOptions} (hdecode : decodeEntries entries decoded = .ok options) :
    ∀ entry ∈ entries, entry.workerID = executorWorkerID := by
  induction entries generalizing decoded with
  | nil => exact forall_mem_nil _
  | cons entry rest ih =>
    rw [decodeEntries] at hdecode
    split at hdecode
    · cases hdecode
    · rename_i hentry
      refine forall_mem_cons.mpr ⟨?_, ih hdecode⟩
      by_contra hworker
      rw [decodeExecutorOption, if_pos hworker] at hentry
      cases hentry

end Lazier.LZ
