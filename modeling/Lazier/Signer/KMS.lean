import Lazier.Store.Bytes

/-!
# Signatures of the key service

`SignHash` asks the key service for a DER signature of a digest and turns its
two integers into an Ethereum signature.
-/

namespace Lazier.Signer

open Store List FixedBytes

def secp256k1N : ℕ := 0xfffffffffffffffffffffffffffffffebaaedce6af48a03bbfd25e8cd0364141

def secp256k1HalfN : ℕ := secp256k1N / 2

/-- `big.Int.Bytes`: big-endian, without leading zeros. -/
def bigBytes (value : ℕ) : Bytes := ((Nat.digits 256 value).map UInt8.ofNat).reverse

/-- `copy(target[offset:], source)` where the source fits. -/
def copyAt (target : Bytes) (offset : ℕ) (source : Bytes) : Bytes :=
  target.take offset ++ source ++ target.drop (offset + source.length)

def signatureBytes (r s : ℕ) (recoveryID : UInt8) : Bytes :=
  let signature := replicate 65 0
  let signature := copyAt signature (32 - (bigBytes r).length) (bigBytes r)
  let signature := copyAt signature (64 - (bigBytes s).length) (bigBytes s)
  signature.set 64 recoveryID

/-- Left-padded to a word. -/
def padded (value : ℕ) : Bytes := (ofBytes 32 (bigBytes value)).1

/-! ## DER -/

/-- The bytes of a long length, with the value of those already read. -/
def longLength : ℕ → ℕ → Bytes → Except String (ℕ × Bytes)
  | 0, length, rest =>
    if length < 128 then .error "asn1: structure error: non-minimal length" else .ok (length, rest)
  | _ + 1, _, [] => .error "asn1: syntax error: truncated tag or length"
  | count + 1, length, byte :: rest =>
    if 2 ^ 23 ≤ length then .error "asn1: structure error: length too large"
    else if length * 256 + byte.toNat = 0 then
      .error "asn1: structure error: superfluous leading zeros in length"
    else longLength count (length * 256 + byte.toNat) rest

def parseLength : Bytes → Except String (ℕ × Bytes)
  | [] => .error "asn1: syntax error: truncated tag or length"
  | first :: rest =>
    if first < 128 then .ok (first.toNat, rest)
    else if first = 128 then .error "asn1: syntax error: indefinite length found (not DER)"
    else longLength (first.toNat - 128) 0 rest

/-- `asn1.parseField`: the content of an element and what follows it.  A tag
number of several bytes is that of neither type, whatever length is read. -/
def parseField (tag : UInt8) : Bytes → Except String (Bytes × Bytes)
  | [] => .error "asn1: syntax error: sequence truncated"
  | first :: bytes => do
    let (length, rest) ← parseLength bytes
    if first ≠ tag then .error "asn1: structure error: tags don't match"
    else if rest.length < length then .error "asn1: syntax error: data truncated"
    else .ok (rest.splitAt length)

/-- Two's complement in as few bytes as possible. -/
def parseBigInt : Bytes → Except String ℤ
  | [] => .error "asn1: structure error: empty integer"
  | first :: rest =>
    if rest.head?.any fun second => first = 0 ∧ second < 128 ∨ first = 255 ∧ 128 ≤ second then
      .error "asn1: structure error: integer not minimally-encoded"
    else
      let value := bigEndian (first :: rest)
      .ok (if first < 128 then value else value - 256 ^ (rest.length + 1))

/-- `asn1.Unmarshal` of two integers.  The sequence may have further elements. -/
def unmarshal (der : Bytes) : Except String ((ℤ × ℤ) × Bytes) := do
  let (sequence, rest) ← parseField 0x30 der
  let (first, sequence) ← parseField 0x02 sequence
  let r ← parseBigInt first
  let (second, _) ← parseField 0x02 sequence
  let s ← parseBigInt second
  return ((r, s), rest)

def parseDERSignature (der : Bytes) : Except String (ℕ × ℕ) :=
  match unmarshal der with
  | .error error => .error error
  | .ok ((r, s), rest) =>
    if rest ≠ [] then .error "kms signature has trailing DER bytes"
    else if r ≤ 0 ∨ s ≤ 0 then .error "kms signature contains invalid r or s"
    else if secp256k1N ≤ r ∨ secp256k1N ≤ s then
      .error "kms signature r or s exceeds secp256k1 order"
    else .ok (r.toNat, s.toNat)

/-! ## Recovery -/

/-- The recovery of secp256k1. -/
structure Crypto where
  PublicKey : Type
  sigToPub : Hash → Bytes → Option PublicKey
  pubkeyToAddress : PublicKey → Address

section

variable (crypto : Crypto)

/-- The loop tries the two recovery ids in order. -/
def recoverEthereumSignature (digest : Hash) (r s : ℕ) (expected : Address) : Except String Bytes :=
  let normalizedS := if secp256k1HalfN < s then secp256k1N - s else s
  match [0, 1].find? fun recoveryID => decide ((crypto.sigToPub digest
      (signatureBytes r normalizedS recoveryID)).map crypto.pubkeyToAddress = some expected) with
  | some recoveryID => .ok (signatureBytes r normalizedS recoveryID)
  | none => .error s!"kms signature did not recover expected address {expected.hex}"

/-- `SignHash`, where `client` is `SignDigest` of the configured key. -/
def signHash (client : Option (Hash → Except String Bytes)) (address : Address) (digest : Hash) :
    Except String Bytes :=
  match client with
  | none => .error "kms client is required"
  | some signDigest => do
    let derSignature ← signDigest digest
    let (r, s) ← parseDERSignature derSignature
    recoverEthereumSignature crypto digest r s address

/-- An integer of the signature that recovery is defined for. -/
def IsScalar (value : ℤ) : Prop := 0 < value ∧ value < secp256k1N

instance (value : ℤ) : Decidable (IsScalar value) := inferInstanceAs (Decidable (_ ∧ _))

/-- The address that recovery gives for the two integers and the recovery bit. -/
def recovered (digest : Hash) (r s : ℤ) (v : UInt8) : Option Address :=
  if IsScalar r ∧ IsScalar s then
    (crypto.sigToPub digest (padded r.toNat ++ padded s.toNat ++ [v])).map crypto.pubkeyToAddress
  else none

/-- Negating `s` flips the recovery bit. -/
def FlipsRecovery (digest : Hash) (r s : ℤ) : Prop := ∀ v ∈ [0, 1],
    recovered crypto digest r (secp256k1N - s) (1 - v) = recovered crypto digest r s v

end

theorem length_bigBytes {value : ℕ} (hbound : value < secp256k1N) :
    (bigBytes value).length ≤ 32 := by
  rw [bigBytes, length_reverse, length_map]
  exact (Nat.digits_length_le_iff (by decide) _).2 (hbound.trans (by decide))

/-- A source of at most a word, copied to the end of a word of zeros. -/
theorem copyAt_word (left : Bytes) (rest : ℕ) {source : Bytes} (hsource : source.length ≤ 32) :
    copyAt (left ++ replicate (32 + rest) 0) (left.length + 32 - source.length) source =
      left ++ (ofBytes 32 source).1 ++ replicate rest 0 := by
  have hstart : left.length + 32 - source.length = left.length + (32 - source.length) := by omega
  have hend : left.length + (32 - source.length) + source.length = left.length + 32 := by omega
  simp only [copyAt, ofBytes, hstart, hend, Nat.sub_eq_zero_of_le hsource,
    drop_zero]
  rw [take_length_add_append, drop_length_add_append, take_replicate,
    drop_replicate]
  simp [Nat.min_eq_left (show 32 - source.length ≤ 32 + rest by omega)]

theorem signatureBytes_eq {r s : ℕ} (hr : r < secp256k1N) (hs : s < secp256k1N)
    (recoveryID : UInt8) :
    signatureBytes r s recoveryID = padded r ++ padded s ++ [recoveryID] := by
  have hwidth (value : ℕ) : (padded value).length = 32 := (ofBytes 32 _).2
  have hfirst := copyAt_word [] 33 (length_bigBytes hr)
  have hsecond := copyAt_word (padded r) 1 (length_bigBytes hs)
  rw [nil_append, length_nil, Nat.zero_add] at hfirst
  rw [hwidth] at hsecond
  rw [signatureBytes, hfirst]
  change (copyAt (padded r ++ _) _ _).set 64 _ = _
  rw [hsecond]
  change (padded r ++ padded s ++ [0]).set 64 _ = _
  rw [set_append_right _ _ (by rw [length_append, hwidth, hwidth]), length_append,
    hwidth, hwidth]
  rfl

theorem isScalar_sub_iff {value : ℤ} : IsScalar (secp256k1N - value) ↔ IsScalar value := by
  unfold IsScalar
  omega

variable {crypto : Crypto} {signDigest : Hash → Except String Bytes} {digest : Hash}
  {expected : Address} {der : Bytes} {r s : ℤ}

/-- The lower of `s` and its negation. -/
def lowS (s : ℤ) : ℤ := if secp256k1HalfN < s then secp256k1N - s else s

theorem lowS_spec (hs : IsScalar s) : IsScalar (lowS s) ∧ lowS s ≤ secp256k1HalfN ∧
    (lowS s = s ∨ lowS s = secp256k1N - s) := by
  have hodd : secp256k1N = 2 * secp256k1HalfN + 1 := by decide
  obtain ⟨hpositive, hbound⟩ := hs
  unfold lowS IsScalar
  split_ifs <;> omega

theorem toNat_lowS (hs : IsScalar s) : (if secp256k1HalfN < s.toNat then secp256k1N - s.toNat
    else s.toNat) = (lowS s).toNat := by
  obtain ⟨hpositive, hbound⟩ := hs
  unfold lowS
  split_ifs <;> omega

theorem toNat_lt (hvalue : IsScalar r) : r.toNat < secp256k1N := by
  obtain ⟨hpositive, hbound⟩ := hvalue
  omega

/-- The answer in terms of the recovery of the two integers. -/
theorem recoverEthereumSignature_eq (hr : IsScalar r) (hs : IsScalar s) :
    recoverEthereumSignature crypto digest r.toNat s.toNat expected =
      match [0, 1].find? fun v =>
        decide (recovered crypto digest r (lowS s) v = some expected) with
      | some v => .ok (padded r.toNat ++ padded (lowS s).toNat ++ [v])
      | none => .error s!"kms signature did not recover expected address {expected.hex}" := by
  have hlow := (lowS_spec hs).1
  simp only [recoverEthereumSignature, toNat_lowS hs, recovered, if_pos (And.intro hr hlow),
    signatureBytes_eq (toNat_lt hr) (toNat_lt hlow)]

theorem signHash_eq (hclient : signDigest digest = .ok der)
    (hder : unmarshal der = .ok ((r, s), [])) :
    (IsScalar r ∧ IsScalar s ∧
      signHash crypto (some signDigest) expected digest =
        recoverEthereumSignature crypto digest r.toNat s.toNat expected) ∨
      ¬ (IsScalar r ∧ IsScalar s) ∧
        ∃ error, signHash crypto (some signDigest) expected digest = .error error := by
  simp only [signHash, parseDERSignature, hclient, hder, bind, Except.bind, ne_eq,
    not_true_eq_false, if_false, IsScalar]
  split_ifs with hsign hbound
  · exact .inr ⟨by omega, _, rfl⟩
  · exact .inr ⟨by omega, _, rfl⟩
  · exact .inl ⟨by omega, by omega, rfl⟩

/-- A signature of the key service is turned into the low-`s` Ethereum
signature of the expected address, whenever it is one of that address. -/
theorem signHash_recovers (hflips : FlipsRecovery crypto digest r s)
    (hclient : signDigest digest = .ok der) (hder : unmarshal der = .ok ((r, s), [])) :
    (∀ signature, signHash crypto (some signDigest) expected digest = .ok signature →
      ∃ s' : ℤ, ∃ v ∈ [0, 1], signature = padded r.toNat ++ padded s'.toNat ++ [v] ∧
        signature.length = 65 ∧ s' ≤ secp256k1HalfN ∧ (s' = s ∨ s' = secp256k1N - s) ∧
        recovered crypto digest r s' v = some expected) ∧
    ((∃ v ∈ [0, 1], recovered crypto digest r s v = some expected ∨
        recovered crypto digest r (secp256k1N - s) v = some expected) →
      ∃ signature, signHash crypto (some signDigest) expected digest = .ok signature) := by
  rcases signHash_eq hclient hder with ⟨hr, hs, heq⟩ | ⟨hscalars, error, heq⟩
  · obtain ⟨hlow, hhalf, hcases⟩ := lowS_spec hs
    rw [heq, recoverEthereumSignature_eq hr hs]
    constructor
    · intro signature hsignature
      split at hsignature
      · rename_i v hfound
        cases hsignature
        refine ⟨lowS s, v, mem_of_find?_eq_some hfound, rfl, ?_, hhalf, hcases,
          by simpa using find?_some hfound⟩
        simp [padded, (ofBytes 32 _).2]
      · cases hsignature
    · rintro ⟨v, hv, hrecovered⟩
      have hlowRecovered : ∃ v ∈ [0, 1], recovered crypto digest r (lowS s) v = some expected := by
        have hother : 1 - v ∈ [0, 1] := by
          rcases mem_pair.1 hv with rfl | rfl <;> decide
        rcases hcases with hkept | hnegated <;> rcases hrecovered with hrecovered | hrecovered
        · exact ⟨v, hv, by rw [hkept, hrecovered]⟩
        · refine ⟨1 - v, hother, ?_⟩
          rw [hkept, ← hrecovered, ← hflips _ hother, sub_sub_cancel]
        · exact ⟨1 - v, hother, by rw [hnegated, hflips v hv, hrecovered]⟩
        · exact ⟨v, hv, by rw [hnegated, hrecovered]⟩
      obtain ⟨v, hv, hrecovered⟩ := hlowRecovered
      split
      · exact ⟨_, rfl⟩
      · rename_i hnone
        exact absurd (decide_eq_true hrecovered) (find?_eq_none.1 hnone v hv)
  · rw [heq]
    constructor
    · intro signature hsignature
      cases hsignature
    · rintro ⟨v, -, hrecovered | hrecovered⟩
      · simp [recovered, hscalars] at hrecovered
      · simp [recovered, isScalar_sub_iff, hscalars] at hrecovered

/-! ## A signature with a high s -/

def highR : ℕ := 0xf9308a019258c31049344f85f89d5229b531c845836f99b08601f113bce036f9

def highS : ℕ := 0x9500f001086ff76ef3e64468472171f8de10d4ddc4a5eaf955feedb2b3774923

def highDER : Bytes :=
  [0x30, 70, 0x02, 33, 0] ++ abiWord highR ++ [0x02, 33, 0] ++ abiWord highS

/-- The two keys that recover from the signature of the digest of nothing.  The
signer's is the generator. -/
def sampleCrypto : Crypto where
  PublicKey := ℕ × ℕ
  sigToPub digest signature :=
    if digest = bytesToHash (Library.keccak256 []) ∧ signature.take 32 = abiWord highR then
      let kept := decide (signature.drop 32 = abiWord highS ++ [0] ∨
        signature.drop 32 = abiWord (secp256k1N - highS) ++ [1])
      let flipped := decide (signature.drop 32 = abiWord highS ++ [1] ∨
        signature.drop 32 = abiWord (secp256k1N - highS) ++ [0])
      if kept then
        some (0x79be667ef9dcbbac55a06295ce870b07029bfcdb2dce28d959f2815b16f81798,
          0x483ada7726a3c4655da4fbfc0e1108a8fd17b448a68554199c47d08ffb10d4b8)
      else if flipped then
        some (0x1f631bffa71371def37acf99a280c4d8038a53b6a17c93b9fdfab8c51a60e21d,
          0x13be58227b34b9655617690b47cbe2e2b1efaf61150c6f11e0302ac050c01457)
      else none
    else none
  pubkeyToAddress key := bytesToAddress (Library.keccak256 (abiWord key.1 ++ abiWord key.2))

theorem highDER_recovers : ∃ signature, signHash sampleCrypto (some fun _ => .ok highDER)
      (.ofNat 20 0x7e5f4552091a69125d5dfcb7b8c2659029395bdf) (bytesToHash (Library.keccak256 [])) =
        .ok signature := by
  have hder : unmarshal highDER = .ok ((highR, highS), []) := by decide +kernel
  have hflips : FlipsRecovery sampleCrypto (bytesToHash (Library.keccak256 [])) highR highS := by
    unfold FlipsRecovery
    decide +kernel
  exact (signHash_recovers hflips rfl hder).2 ⟨0, by decide, .inl (by decide +kernel)⟩

end Lazier.Signer
