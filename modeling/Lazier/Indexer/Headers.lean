import Lazier.DVN.Evidence

/-!
# Headers and routing identities

A PacketV1 header has 32 bytes for each of its two addresses, and the decoder
keeps the last 20.  Re-encoding gives the header back exactly when the bytes it
dropped are zero, and only then does the routing identity determine the header.
-/

namespace Lazier.Indexer

open Store DVN List FixedBytes

/-- The PacketV1 layout of a decoded header. -/
def encodePacketV1Header (header : PacketV1Header) : Bytes :=
  (ofNat 1 header.version).1 ++ ((ofNat 8 header.nonce).1 ++
    ((ofNat 4 header.srcEID).1 ++ (List.replicate 12 0 ++ (header.sender.1 ++
      ((ofNat 4 header.dstEID).1 ++ (List.replicate 12 0 ++ header.receiver.1))))))

/-- The key of packets, tombstones and destination events. -/
def routingIdentity (header : PacketV1Header) : ℕ × ℕ × Address × Address × ℕ :=
  (header.srcEID, header.dstEID, header.sender, header.receiver, header.nonce)

/-- Both address fields are left-padded 20-byte addresses. -/
def Padded (header : Bytes) : Prop :=
  slice header 13 25 = List.replicate 12 0 ∧ slice header 49 61 = List.replicate 12 0

theorem ofNat_bigEndian {width : ℕ} {bytes : Bytes} (hlength : bytes.length = width) :
    (ofNat width (bigEndian bytes)).1 = bytes := by
  have hgo : ∀ digits : Bytes, ofNat.go digits.length (bigEndian digits) = digits := by
    intro digits
    induction digits using List.reverseRecOn with
    | nil => rfl
    | append_singleton digits digit ih =>
      have hdigit := digit.toNat_lt
      have hvalue : bigEndian (digits ++ [digit]) = bigEndian digits * 256 + digit.toNat := by
        simp [bigEndian]
      have hhigh : (bigEndian digits * 256 + digit.toNat) / 256 = bigEndian digits := by omega
      have hlow : (bigEndian digits * 256 + digit.toNat) % 256 = digit.toNat := by omega
      rw [length_append, length_singleton, hvalue, ofNat.go, hhigh, hlow, ih,
        UInt8.ofNat_toNat]
  rw [ofNat, ← hlength, hgo]
  simp [ofBytes]

theorem slice_append_slice (bytes : Bytes) {low middle high : ℕ} (hlow : low ≤ middle)
    (hhigh : middle ≤ high) : slice bytes low middle ++ slice bytes middle high =
      slice bytes low high := by
  have hdrop : bytes.drop middle = (bytes.drop low).drop (middle - low) := by
    rw [drop_drop, Nat.add_sub_cancel' hlow]
  have hwidth : high - low = (middle - low) + (high - middle) := by omega
  rw [slice, slice, slice, hdrop, hwidth, take_add]

theorem length_slice {bytes : Bytes} {low high : ℕ} (hlow : low ≤ high)
    (hhigh : high ≤ bytes.length) : (slice bytes low high).length = high - low := by
  rw [slice, length_take, length_drop]
  omega

theorem bytesToAddress_slice {bytes : Bytes} {low : ℕ} (hlength : low + 32 ≤ bytes.length) :
    (bytesToAddress (slice bytes low (low + 32))).1 = slice bytes (low + 12) (low + 32) := by
  have hwidth : (slice bytes low (low + 32)).length = 32 := by
    rw [length_slice (by omega) hlength, Nat.add_sub_cancel_left]
  change List.replicate (20 - (slice bytes low (low + 32)).length) 0 ++
    (slice bytes low (low + 32)).drop ((slice bytes low (low + 32)).length - 20) = _
  rw [hwidth, slice, slice, drop_take, drop_drop]
  congr 2

variable {header : Bytes} {decoded : PacketV1Header}

theorem encode_of_decoded (hdecode : decodePacketV1Header header = .ok decoded) :
    header.length = 81 ∧ decoded.version = 1 ∧ encodePacketV1Header decoded =
      slice header 0 13 ++ (List.replicate 12 0 ++ (slice header 25 49 ++
        (List.replicate 12 0 ++ slice header 61 81))) := by
  unfold decodePacketV1Header at hdecode
  split at hdecode
  · cases hdecode
  rename_i hlength
  rw [packetV1HeaderLength, not_not] at hlength
  dsimp only at hdecode
  split at hdecode
  · cases hdecode
  rename_i hvalid
  cases hdecode
  refine ⟨hlength, ?_, ?_⟩
  · unfold validatePacketV1Header at hvalid
    split at hvalid
    · cases hvalid
    · rename_i hversion
      exact not_not.mp hversion
  · have hfield : ∀ {low high : ℕ}, low ≤ high → high ≤ 81 →
        (ofNat (high - low) (bigEndian (slice header low high))).1 =
          slice header low high :=
      fun hlow hhigh => ofNat_bigEndian (length_slice hlow (hlength ▸ hhigh))
    have hsender := @bytesToAddress_slice header 13 (by omega)
    have hreceiver := @bytesToAddress_slice header 49 (by omega)
    rw [encodePacketV1Header]
    dsimp only
    rw [hsender, hreceiver, @hfield 0 1 (by omega) (by omega), @hfield 1 9 (by omega) (by omega),
      @hfield 9 13 (by omega) (by omega), @hfield 45 49 (by omega) (by omega)]
    rw [← slice_append_slice header (by omega : 0 ≤ 1) (by omega : 1 ≤ 13),
      ← slice_append_slice header (by omega : 1 ≤ 9) (by omega : 9 ≤ 13),
      ← slice_append_slice header (by omega : 25 ≤ 45) (by omega : 45 ≤ 49)]
    simp only [append_assoc]

theorem padded_iff (hdecode : decodePacketV1Header header = .ok decoded) :
    encodePacketV1Header decoded = header ↔ Padded header := by
  obtain ⟨hlength, -, hencode⟩ := encode_of_decoded hdecode
  have hheader : header = slice header 0 13 ++ (slice header 13 25 ++ (slice header 25 49 ++
      (slice header 49 61 ++ slice header 61 81))) := by
    rw [slice_append_slice, slice_append_slice, slice_append_slice, slice_append_slice] <;>
      first | omega | simp [slice, ← hlength]
  have hfirst : (slice header 13 25).length = 12 := length_slice (by omega) (by omega)
  have hsecond : (slice header 49 61).length = 12 := length_slice (by omega) (by omega)
  rw [hencode]
  constructor
  · intro heq
    obtain ⟨hsender, hrest⟩ := append_inj
      (append_cancel_left (heq.trans hheader)) (length_replicate.trans hfirst.symm)
    obtain ⟨hreceiver, -⟩ := append_inj
      (append_cancel_left hrest) (length_replicate.trans hsecond.symm)
    exact ⟨hsender.symm, hreceiver.symm⟩
  · rintro ⟨hsender, hreceiver⟩
    rw [hsender, hreceiver] at hheader
    exact hheader.symm

/-- Re-encoding an accepted header gives it back exactly when both address
fields are padded addresses, and padded headers are told apart by their routing
identities. -/
theorem header_lossless_iff (hdecode : decodePacketV1Header header = .ok decoded) :
    (encodePacketV1Header decoded = header ↔ Padded header) ∧
      ∀ other otherDecoded, decodePacketV1Header other = .ok otherDecoded → Padded header →
        Padded other → routingIdentity decoded = routingIdentity otherDecoded → header = other := by
  refine ⟨padded_iff hdecode, fun other otherDecoded hother hpadded hpadded' hidentity => ?_⟩
  obtain ⟨-, hversion, -⟩ := encode_of_decoded hdecode
  obtain ⟨-, hversion', -⟩ := encode_of_decoded hother
  simp only [routingIdentity, Prod.mk.injEq] at hidentity
  rw [← (padded_iff hdecode).mpr hpadded, ← (padded_iff hother).mpr hpadded']
  simp only [encodePacketV1Header, hversion, hversion', hidentity]

/-- A header from the given sender field to receiver 7 on another endpoint. -/
def headerOf (sender : Bytes) : Bytes :=
  [1] ++ (ofNat 8 5).1 ++ (ofNat 4 101).1 ++ sender ++
    (ofNat 4 102).1 ++ (ofNat 32 7).1

def decodedOf (sender : Bytes) : PacketV1Header :=
  ⟨1, 5, 101, .ofNat 20 9, 102, .ofNat 20 7, headerOf sender⟩

theorem padded_header_kept : decodePacketV1Header (headerOf (ofNat 32 9).1) =
      .ok (decodedOf (ofNat 32 9).1) ∧
    encodePacketV1Header (decodedOf (ofNat 32 9).1) =
      headerOf (ofNat 32 9).1 :=
  ⟨by decide +kernel, (header_lossless_iff (by decide +kernel)).1.mpr
    ⟨by decide +kernel, by decide +kernel⟩⟩

/-- Two senders that share their last 20 bytes share a routing identity. -/
theorem cropped_senders_collide : ∃ left right decoded other,
    decodePacketV1Header left = .ok decoded ∧ decodePacketV1Header right = .ok other ∧
      left ≠ right ∧ routingIdentity decoded = routingIdentity other ∧
      encodePacketV1Header other ≠ right :=
  ⟨headerOf (ofNat 32 9).1, headerOf (ofNat 32 (2 ^ 248 + 9)).1,
    decodedOf (ofNat 32 9).1, decodedOf (ofNat 32 (2 ^ 248 + 9)).1,
    by decide +kernel, by decide +kernel, by decide +kernel, by decide +kernel, by decide +kernel⟩

end Lazier.Indexer
