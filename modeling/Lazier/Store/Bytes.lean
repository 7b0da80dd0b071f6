import Lazier.Library.Codes
import Lazier.Library.Keccak

/-!
# Fixed-width byte strings

Hashes and addresses are byte strings of a fixed length, and the length is part
of the type.  The conversions follow `common.BytesToHash` and
`common.BytesToAddress`: longer inputs are cropped from the left and shorter
ones are padded on the left.
-/

namespace Lazier.Store

open Library List

abbrev Bytes := List UInt8

/-- Byte strings of exactly `width` bytes. -/
abbrev FixedBytes (width : ℕ) := {bytes : Bytes // bytes.length = width}

abbrev Hash := FixedBytes 32
abbrev Address := FixedBytes 20

namespace FixedBytes

/-- Left-crop or left-pad to the wanted width. -/
def ofBytes (width : ℕ) (bytes : Bytes) : FixedBytes width :=
  ⟨List.replicate (width - bytes.length) 0 ++ bytes.drop (bytes.length - width), by
    rw [length_append, length_replicate, length_drop]
    omega⟩

theorem ofBytes_val {width : ℕ} (value : FixedBytes width) : ofBytes width value.1 = value := by
  apply Subtype.ext
  simp [ofBytes, value.2]

/-- The zero value, Go's `common.Hash{}` and `common.Address{}`. -/
def zero (width : ℕ) : FixedBytes width := ⟨List.replicate width 0, length_replicate⟩

/-- Big-endian value of a small number, for constants. -/
def ofNat (width n : ℕ) : FixedBytes width := ofBytes width (go width n)
where
  go : ℕ → ℕ → Bytes
    | 0, _ => []
    | fuel + 1, rest => go fuel (rest / 256) ++ [UInt8.ofNat (rest % 256)]

def hexDigit (digit : ℕ) : Char :=
  if digit < 10 then Char.ofNat (48 + digit) else Char.ofNat (87 + digit)

def hexBytes (bytes : Bytes) : String := String.ofList (bytes.flatMap fun byte =>
    [hexDigit (byte.toNat / 16), hexDigit (byte.toNat % 16)])

/-- `Hash.Hex`. -/
def hex {width : ℕ} (value : FixedBytes width) : String := "0x" ++ hexBytes value.1

theorem hexDigit_inj {left right : ℕ} (hleft : left < 16) (hright : right < 16)
    (heq : hexDigit left = hexDigit right) : left = right := by
  have hdigits : ∀ left < 16, ∀ right < 16, hexDigit left = hexDigit right →
        left = right := by decide
  exact hdigits left hleft right hright heq

theorem separates_hexByte : Separates (fun _ : UInt8 => True) fun byte =>
    [hexDigit (byte.toNat / 16), hexDigit (byte.toNat % 16)] := by
  refine @Separates.of_width _ _ _ _ 2 (fun _ => rfl) ?_
  intro left right _ _ heq
  have hleft := left.toNat_lt
  have hright := right.toNat_lt
  rw [List.cons.injEq, List.cons.injEq] at heq
  have hhigh := hexDigit_inj (by omega) (by omega) heq.1
  have hlow := hexDigit_inj (by omega) (by omega) heq.2.1
  apply UInt8.toNat_inj.mp
  omega

theorem hexBytes_inj {left right : Bytes} (hlength : left.length = right.length)
    {after behind : List Char}
    (heq : (hexBytes left).toList ++ after = (hexBytes right).toList ++ behind) : left = right := by
  rw [hexBytes, hexBytes, String.toList_ofList, String.toList_ofList] at heq
  exact (separates_hexByte.flatMap hlength (fun _ _ => trivial) (fun _ _ => trivial) heq).1

theorem length_hexBytes (bytes : Bytes) : (hexBytes bytes).toList.length = 2 * bytes.length := by
  simp [hexBytes, length_flatMap, Nat.mul_comm]

theorem hexBytes_injective : Function.Injective hexBytes := by
  intro left right heq
  have hlists := congrArg String.toList heq
  have hlength := congrArg List.length hlists
  rw [length_hexBytes, length_hexBytes] at hlength
  exact hexBytes_inj (by omega) (congrArg (· ++ []) hlists)

/-- The digits are neither of the separators of the fingerprints. -/
theorem not_mem_hexBytes {mark : Char} (hmark : mark = '|' ∨ mark = '/') (bytes : Bytes) :
    mark ∉ (hexBytes bytes).toList := by
  have hdigits : ∀ digit < 16, hexDigit digit ≠ '|' ∧ hexDigit digit ≠ '/' := by decide
  have hdigit : ∀ digit < 16, mark ≠ hexDigit digit := by
    rintro digit hlt rfl
    exact hmark.elim (hdigits digit hlt).1 (hdigits digit hlt).2
  rw [hexBytes, String.toList_ofList, mem_flatMap]
  rintro ⟨byte, -, hmem⟩
  have hbyte : byte.toNat < 256 := byte.toNat_lt
  rcases mem_pair.mp hmem with heq | heq
  · exact hdigit _ (by omega) heq
  · exact hdigit _ (by omega) heq

theorem hex_injective {width : ℕ} : Function.Injective (hex : FixedBytes width → String) := by
  intro left right heq
  have hlists := congrArg String.toList heq
  rw [hex, hex, String.toList_append, String.toList_append] at hlists
  have hdigits := append_cancel_left hlists
  exact Subtype.ext (hexBytes_injective (String.toList_inj.mp hdigits))

theorem not_mem_hex {mark : Char} (hmark : mark = '|' ∨ mark = '/') {width : ℕ}
    {value : FixedBytes width} : mark ∉ value.hex.toList := by
  rw [hex, String.toList_append, mem_append]
  refine not_or.mpr ⟨?_, not_mem_hexBytes hmark value.1⟩
  rcases hmark with rfl | rfl <;> decide

end FixedBytes

section Checksum

open FixedBytes

/-- `Address.Hex`: a letter is upper case where the digest of the digits has a
digit above seven. -/
@[irreducible] def Address.hex (address : Address) : String :=
  let digits := (hexBytes address.1).toList
  let marks := hexBytes (keccak256 (digits.map fun digit => UInt8.ofNat digit.toNat))
  "0x" ++ String.ofList (zipWith (fun digit mark => if mark < '8' then digit else digit.toUpper)
    digits marks.toList)

theorem toLower_checksummed {digits marks : List Char} (hlength : digits.length ≤ marks.length)
    (hdigits : ∀ digit ∈ digits, digit.toLower = digit ∧ digit.toUpper.toLower = digit) :
    (zipWith (fun digit mark => if mark < '8' then digit else digit.toUpper) digits marks).map
      Char.toLower = digits := by
  induction digits generalizing marks with
  | nil => rfl
  | cons digit rest ih =>
    obtain ⟨hrest, hdigit⟩ := forall_mem_cons.mp hdigits
    cases marks with
    | nil => cases hlength
    | cons mark marks =>
      rw [zipWith_cons_cons, map_cons, ih (Nat.le_of_succ_le_succ hlength) hdigit]
      split_ifs <;> simp [hrest]

/-- The casing is all that the text adds to the digits. -/
theorem Address.toLower_hex (address : Address) :
    address.hex.toList.map Char.toLower = (FixedBytes.hex address).toList := by
  have hdigits : ∀ digit < 16, (hexDigit digit).toLower = hexDigit digit ∧
      (hexDigit digit).toUpper.toLower = hexDigit digit := by decide
  simp only [Address.hex, FixedBytes.hex, String.toList_append, map_append, String.toList_ofList]
  rw [toLower_checksummed]
  · rfl
  · rw [length_hexBytes, length_hexBytes, length_keccak256, address.2]
    decide
  · intro digit hdigit
    rw [hexBytes, String.toList_ofList, mem_flatMap] at hdigit
    obtain ⟨byte, -, hmem⟩ := hdigit
    have hbyte := byte.toNat_lt
    rcases mem_pair.mp hmem with rfl | rfl <;> exact hdigits _ (by omega)

theorem Address.hex_injective : Function.Injective Address.hex := by
  intro left right heq
  apply FixedBytes.hex_injective
  rw [← String.toList_inj, ← toLower_hex, ← toLower_hex, heq]

theorem Address.not_mem_hex {mark : Char} (hmark : mark = '|' ∨ mark = '/') {address : Address} :
    mark ∉ address.hex.toList := by
  intro hmem
  have hlower : mark.toLower ∈ (FixedBytes.hex address).toList := by
    rw [← toLower_hex]
    exact mem_map_of_mem hmem
  rcases hmark with rfl | rfl
  · exact FixedBytes.not_mem_hex (.inl rfl) hlower
  · exact FixedBytes.not_mem_hex (.inr rfl) hlower

end Checksum

abbrev Hash.zero : Hash := FixedBytes.zero 32
abbrev Address.zero : Address := FixedBytes.zero 20

def bytesToHash (bytes : Bytes) : Hash := FixedBytes.ofBytes 32 bytes
def bytesToAddress (bytes : Bytes) : Address := FixedBytes.ofBytes 20 bytes

/-- `binary.BigEndian` on a slice of known length. -/
def bigEndian (bytes : Bytes) : ℕ := bytes.foldl (fun value byte => value * 256 + byte.toNat) 0

/-- The low 20 bytes of a word. -/
def lowAddress (word : Hash) : Address := bytesToAddress (word.1.drop 12)

/-! ## ABI words -/

def abiWord (value : ℕ) : Bytes := (FixedBytes.ofNat 32 value).1

/-- A dynamic byte string: its length and its bytes, padded to words. -/
def abiBytes (bytes : Bytes) : Bytes :=
  abiWord bytes.length ++ bytes ++ List.replicate ((32 - bytes.length % 32) % 32) 0

def wordAt (data : Bytes) (slot : ℕ) : Hash := bytesToHash ((data.drop (32 * slot)).take 32)

def natAt (data : Bytes) (slot : ℕ) : ℕ := bigEndian (wordAt data slot).1

/-- Where the offset in a slot points to. -/
def tailAt (data : Bytes) (slot : ℕ) : Bytes := data.drop (natAt data slot)

def bytesAt (data : Bytes) (slot : ℕ) : Bytes :=
  ((tailAt data slot).drop 32).take (natAt (tailAt data slot) 0)

def wordsAt (data : Bytes) (slot : ℕ) : List Hash :=
  (List.range (natAt (tailAt data slot) 0)).map fun index => wordAt (tailAt data slot) (index + 1)

end Lazier.Store
