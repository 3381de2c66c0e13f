import NexusRemote.VideoTransport

/-!
# The video datagram codec

Decoding undoes encoding, and what is accepted is read byte for byte. The
indexed decoder makes every access to the buffer explicit: an index or a range
outside of it is a panic.
-/

namespace VideoCodec

open BigEndian VideoPacket VideoTransport

/-- `from_be_bytes([buf[off], buf[off + 1], ..])`; each index must be inside the buffer. -/
def indexWord (buf : Bytes) (off n : Nat) : Option Nat :=
  ((List.range n).mapM fun i => buf[off + i]?).map ofBytes

/-- `&buf[start..stop]`. -/
def indexRange (buf : Bytes) (start stop : Nat) : Option Bytes :=
  if start ≤ stop ∧ stop ≤ buf.length then some ((buf.drop start).take (stop - start)) else none

/-- `decode` with its accesses; `none` is a panic. -/
def decodeIndexed (buf : Bytes) :
    Option (Except VideoPacketError (VideoPacketHeader × Bytes)) := do
  if buf.length < headerLen then
    return .error (.headerTooShort buf.length)
  let version ← buf[0]?
  if version ≠ currentVersion then
    return .error (.unsupportedVersion currentVersion version)
  let flags ← buf[1]?
  let streamId ← indexWord buf 2 2
  let frameId ← indexWord buf 4 4
  let packetId ← indexWord buf 8 2
  let packetCount ← indexWord buf 10 2
  let timestampUs ← indexWord buf 12 8
  let nonceSequence ← indexWord buf 20 8
  let payloadLen ← indexWord buf 28 2
  if payloadLen > maxPayloadLen then
    return .error (.payloadTooLarge maxPayloadLen payloadLen)
  let payloadEnd := headerLen + payloadLen
  if buf.length < payloadEnd then
    return .error (.payloadTooShort payloadLen (buf.length - headerLen))
  let payload ← indexRange buf headerLen payloadEnd
  return .ok (⟨version, flags, .ofNat streamId, .ofNat frameId, .ofNat packetId,
    .ofNat packetCount, .ofNat timestampUs, .ofNat nonceSequence, .ofNat payloadLen⟩, payload)

def decodeVideoDatagramIndexed (bytes : Bytes) :
    Option (Except VideoDatagramError (VideoPacketHeader × Bytes)) :=
  if bytes.length > maxVideoDatagramSize then
    some (.error (.tooLarge bytes.length maxVideoDatagramSize))
  else
    (decodeIndexed bytes).map fun
      | .error e => .error (.packet e)
      | .ok decoded => .ok decoded

/-! ## No access outside of the buffer -/

theorem indexWord_eq (buf : Bytes) (off n : Nat) (h : off + n ≤ buf.length) :
    indexWord buf off n = some (ofBytes (slice buf off n)) := by
  have hmap : ∀ m, m ≤ n →
      (List.range m).mapM (fun i => buf[off + i]?) = some ((buf.drop off).take m) := by
    intro m hm
    induction m with
    | zero => rfl
    | succ m ih =>
      have hlt : off + m < buf.length := by omega
      rw [List.range_succ, List.mapM_append, ih (by omega), List.take_succ_eq_append_getElem
        (by rw [List.length_drop]; omega)]
      simp [hlt]
  rw [indexWord, hmap n (Nat.le_refl n)]
  rfl

theorem decodeIndexed_eq (buf : Bytes) :
    decodeIndexed buf = some (VideoPacketHeader.decode buf) := by
  unfold decodeIndexed VideoPacketHeader.decode
  by_cases hshort : buf.length < headerLen
  · simp [hshort]
  · have hlen : 30 ≤ buf.length := Nat.not_lt.mp hshort
    have hversion : buf[0]? = some (buf.getD 0 0) := by
      rw [List.getD_eq_getElem?_getD, List.getElem?_eq_getElem (by omega), Option.getD_some]
    have hflags : buf[1]? = some (buf.getD 1 0) := by
      rw [List.getD_eq_getElem?_getD, List.getElem?_eq_getElem (by omega), Option.getD_some]
    have hpayloadLen : (UInt16.ofNat (ofBytes (slice buf 28 2))).toNat = ofBytes (slice buf 28 2) :=
      UInt16.toNat_ofNat_of_lt' (ofBytes_slice_lt buf 28 2)
    simp only [hshort, if_false, hversion, hflags, indexWord_eq buf 2 2 (by omega),
      indexWord_eq buf 4 4 (by omega), indexWord_eq buf 8 2 (by omega),
      indexWord_eq buf 10 2 (by omega), indexWord_eq buf 12 8 (by omega),
      indexWord_eq buf 20 8 (by omega), indexWord_eq buf 28 2 (by omega), Option.bind_eq_bind,
      Option.bind_some, VideoPacketHeader.read, hpayloadLen]
    split
    · rfl
    · split
      · rfl
      · split
        · rfl
        · rename_i hwhole
          have hrange : indexRange buf headerLen (headerLen + ofBytes (slice buf 28 2)) =
              some (slice buf headerLen (ofBytes (slice buf 28 2))) := by
            rw [indexRange, if_pos ⟨Nat.le_add_right _ _, Nat.not_lt.mp hwhole⟩, Nat.add_sub_cancel_left]
            rfl
          rw [hrange]
          rfl

theorem decodeVideoDatagramIndexed_eq (bytes : Bytes) :
    decodeVideoDatagramIndexed bytes = some (decodeVideoDatagram bytes) := by
  unfold decodeVideoDatagramIndexed decodeVideoDatagram
  rw [decodeIndexed_eq]
  split
  · rfl
  · cases VideoPacketHeader.decode bytes <;> rfl

/-! ## What is read is what was written -/

/-- Writing back the fields that were read gives the first thirty bytes. -/
theorem encode_read (buf payload : Bytes) (h : headerLen ≤ buf.length) :
    (VideoPacketHeader.read buf).encode payload [] = buf.take headerLen ++ payload := by
  have hlen : 30 ≤ buf.length := h
  have hfront : [buf.getD 0 0, buf.getD 1 0] = slice buf 0 2 := by
    match buf, hlen with
    | a :: b :: rest, _ => rfl
  have h16 : ∀ off, off + 2 ≤ 30 →
      toBytes 2 (UInt16.ofNat (ofBytes (slice buf off 2))).toNat = slice buf off 2 := by
    intro off hoff
    rw [UInt16.toNat_ofNat_of_lt' (ofBytes_slice_lt buf off 2), toBytes_slice buf off 2 (by omega)]
  have h32 : toBytes 4 (UInt32.ofNat (ofBytes (slice buf 4 4))).toNat = slice buf 4 4 := by
    rw [UInt32.toNat_ofNat_of_lt' (ofBytes_slice_lt buf 4 4), toBytes_slice buf 4 4 (by omega)]
  have h64 : ∀ off, off + 8 ≤ 30 →
      toBytes 8 (UInt64.ofNat (ofBytes (slice buf off 8))).toNat = slice buf off 8 := by
    intro off hoff
    rw [UInt64.toNat_ofNat_of_lt' (ofBytes_slice_lt buf off 8), toBytes_slice buf off 8 (by omega)]
  have hwhole : slice buf 0 30 = buf.take headerLen := rfl
  -- The fields lie next to each other, so their slices join up.
  simp only [VideoPacketHeader.encode, VideoPacketHeader.read, hfront, h32, h16 2 (by decide),
    h16 8 (by decide), h16 10 (by decide), h64 12 (by decide), h64 20 (by decide),
    h16 28 (by decide), List.nil_append, ← hwhole]
  simp only [← List.append_assoc, slice_append_slice buf 0 2 2, slice_append_slice buf 0 4 4,
    slice_append_slice buf 0 8 2, slice_append_slice buf 0 10 2, slice_append_slice buf 0 12 8,
    slice_append_slice buf 0 20 8, slice_append_slice buf 0 28 2]

theorem encode_decode (buf payload : Bytes) (h : VideoPacketHeader)
    (hd : VideoPacketHeader.decode buf = .ok (h, payload)) :
    h.encode payload [] = buf.take (headerLen + h.payloadLen.toNat) := by
  obtain ⟨rfl, rfl, -, hwhole, -, -⟩ := decode_ok buf payload h hd
  rw [encode_read buf _ (Nat.le_trans (Nat.le_add_right _ _) hwhole), List.take_add]
  rfl

/-- A header of the current version and its payload survive the wire; whatever is accepted
re-encodes to the bytes that it was read from; and no bytes make decoding look outside of
the buffer. -/
theorem video_datagram_exact :
    (∀ (h : VideoPacketHeader) (p : Bytes), h.version = currentVersion →
      h.payloadLen.toNat = p.length → p.length ≤ maxPayloadLen →
      ∃ bytes, encodeVideoDatagram h p = .ok bytes ∧ decodeVideoDatagram bytes = .ok (h, p)) ∧
    (∀ (bytes : Bytes) (h : VideoPacketHeader) (p : Bytes), decodeVideoDatagram bytes = .ok (h, p) →
      encodeVideoDatagram h p = .ok (bytes.take (headerLen + h.payloadLen.toNat))) ∧
    ∀ bytes : Bytes, decodeVideoDatagramIndexed bytes = some (decodeVideoDatagram bytes) := by
  have hfits : ∀ p : Bytes, p.length ≤ maxPayloadLen →
      ¬headerLen + p.length > maxVideoDatagramSize := by
    intro p hp
    simp only [maxPayloadLen, headerLen, maxVideoDatagramSize] at *
    omega
  have hencode : ∀ (h : VideoPacketHeader) (p : Bytes), h.payloadLen.toNat = p.length →
      p.length ≤ maxPayloadLen → encodeVideoDatagram h p = .ok (h.encode p []) := by
    intro h p hlen hmax
    rw [encodeVideoDatagram, if_neg (Nat.not_lt.mpr hmax), if_neg (not_not.mpr hlen),
      if_neg (hfits p hmax)]
  refine ⟨?_, ?_, decodeVideoDatagramIndexed_eq⟩
  · intro h p hversion hlen hmax
    refine ⟨h.encode p [], hencode h p hlen hmax, ?_⟩
    rw [decodeVideoDatagram, length_encode, if_neg (hfits p hmax), decode_encode h p hversion hlen hmax]
  · intro bytes h p hdecode
    have hd := decodeVideoDatagram_ok bytes (h, p) hdecode
    have hdecoded := decode_ok bytes p h hd
    rw [hencode h p hdecoded.length hdecoded.max, encode_decode bytes p h hd]

theorem video_datagram_exact_two_bytes :
    let h : VideoPacketHeader := ⟨2, 7, 3, 9, 0, 1, 1000, 5, 2⟩
    ∃ bytes, encodeVideoDatagram h [1, 2] = .ok bytes ∧
      decodeVideoDatagram bytes = .ok (h, [1, 2]) := by
  intro h
  exact video_datagram_exact.1 h [1, 2] rfl rfl (by decide)

end VideoCodec
