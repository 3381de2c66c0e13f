import NexusRemote.BigEndian

/-!
# The video packet header (`crates/nexus-protocol/src/video_packet.rs`)

Thirty bytes in network order, followed by the payload. Decoding rejects short
buffers, foreign versions and oversized payload declarations before it slices.
-/

namespace VideoPacket

open BigEndian

def headerLen : Nat := 30
def currentVersion : UInt8 := 2
def maxPayloadLen : Nat := 1200

def flagKeyframe : UInt8 := 1
def flagFrameStart : UInt8 := 2
def flagFrameEnd : UInt8 := 4

structure VideoPacketHeader where
  version : UInt8
  flags : UInt8
  streamId : UInt16
  frameId : UInt32
  packetId : UInt16
  packetCount : UInt16
  timestampUs : UInt64
  nonceSequence : UInt64
  payloadLen : UInt16
  deriving DecidableEq, Repr

inductive VideoPacketError where
  | unsupportedVersion (expected actual : UInt8)
  | headerTooShort (got : Nat)
  | payloadTooShort (declared got : Nat)
  | payloadTooLarge (max actual : Nat)
  deriving DecidableEq, Repr

/-- `header.flags & KEYFRAME != 0`. -/
def VideoPacketHeader.isKeyframe (h : VideoPacketHeader) : Bool := h.flags &&& flagKeyframe != 0

/-- A mask distributes over flags that are set together. -/
theorem or_and (a b c : UInt8) : (a ||| b) &&& c = (a &&& c) ||| (b &&& c) := by
  apply UInt8.toBitVec_inj.mp
  ext i
  simp [Bool.and_or_distrib_right]

/-- Appends the header and the payload to `out`. -/
def VideoPacketHeader.encode (h : VideoPacketHeader) (payload out : Bytes) : Bytes :=
  out ++ ([h.version, h.flags] ++ (toBytes 2 h.streamId.toNat ++ (toBytes 4 h.frameId.toNat ++
    (toBytes 2 h.packetId.toNat ++ (toBytes 2 h.packetCount.toNat ++
      (toBytes 8 h.timestampUs.toNat ++ (toBytes 8 h.nonceSequence.toNat ++
        (toBytes 2 h.payloadLen.toNat ++ payload))))))))

/-- The fields at their wire offsets; the version byte is read but not judged. -/
def VideoPacketHeader.read (buf : Bytes) : VideoPacketHeader where
  version := buf.getD 0 0
  flags := buf.getD 1 0
  streamId := UInt16.ofNat (ofBytes (slice buf 2 2))
  frameId := UInt32.ofNat (ofBytes (slice buf 4 4))
  packetId := UInt16.ofNat (ofBytes (slice buf 8 2))
  packetCount := UInt16.ofNat (ofBytes (slice buf 10 2))
  timestampUs := UInt64.ofNat (ofBytes (slice buf 12 8))
  nonceSequence := UInt64.ofNat (ofBytes (slice buf 20 8))
  payloadLen := UInt16.ofNat (ofBytes (slice buf 28 2))

def VideoPacketHeader.decode (buf : Bytes) :
    Except VideoPacketError (VideoPacketHeader × Bytes) :=
  if buf.length < headerLen then .error (.headerTooShort buf.length)
  else
    let h := VideoPacketHeader.read buf
    if h.version ≠ currentVersion then .error (.unsupportedVersion currentVersion h.version)
    else if h.payloadLen.toNat > maxPayloadLen then
      .error (.payloadTooLarge maxPayloadLen h.payloadLen.toNat)
    else if buf.length < headerLen + h.payloadLen.toNat then
      .error (.payloadTooShort h.payloadLen.toNat (buf.length - headerLen))
    else .ok (h, slice buf headerLen h.payloadLen.toNat)

@[simp] theorem length_encode (h : VideoPacketHeader) (payload : Bytes) :
    (h.encode payload []).length = headerLen + payload.length := by
  simp [VideoPacketHeader.encode, headerLen]
  omega

/-- Every field is read back from where it was written. -/
theorem read_encode (h : VideoPacketHeader) (payload : Bytes) :
    VideoPacketHeader.read (h.encode payload []) = h := by
  cases h
  simp [VideoPacketHeader.read, VideoPacketHeader.encode, slice_append_right, slice_append_left]

theorem payload_encode (h : VideoPacketHeader) (payload : Bytes) :
    slice (h.encode payload []) headerLen payload.length = payload := by
  simp [VideoPacketHeader.encode, headerLen, slice_append_right, slice_whole]

theorem decode_encode (h : VideoPacketHeader) (payload : Bytes) (hv : h.version = currentVersion)
    (hl : h.payloadLen.toNat = payload.length) (hm : payload.length ≤ maxPayloadLen) :
    VideoPacketHeader.decode (h.encode payload []) = .ok (h, payload) := by
  have hshort : ¬(h.encode payload []).length < headerLen := by simp
  have hwhole : ¬(h.encode payload []).length < headerLen + payload.length := by simp
  simp only [VideoPacketHeader.decode, hshort, ↓reduceIte, read_encode, hv, hl, ne_eq,
    not_true_eq_false, Nat.not_lt.mpr hm, hwhole, payload_encode]

/-- What decoding has checked about the header and the payload it returns. -/
structure Decoded (buf payload : Bytes) (h : VideoPacketHeader) : Prop where
  header : h = VideoPacketHeader.read buf
  piece : payload = slice buf headerLen h.payloadLen.toNat
  version : h.version = currentVersion
  whole : headerLen + h.payloadLen.toNat ≤ buf.length
  length : h.payloadLen.toNat = payload.length
  max : payload.length ≤ maxPayloadLen

theorem decode_ok (buf payload : Bytes) (h : VideoPacketHeader)
    (hd : VideoPacketHeader.decode buf = .ok (h, payload)) : Decoded buf payload h := by
  unfold VideoPacketHeader.decode at hd
  split at hd
  · cases hd
  · dsimp only at hd
    split at hd
    · cases hd
    · rename_i hv
      split at hd
      · cases hd
      · rename_i hmax
        split at hd
        · cases hd
        · rename_i hwhole
          simp only [Except.ok.injEq, Prod.mk.injEq] at hd
          obtain ⟨rfl, rfl⟩ := hd
          refine ⟨rfl, rfl, not_not.mp hv, Nat.not_lt.mp hwhole, ?_, ?_⟩ <;>
            · simp only [slice, List.length_take, List.length_drop]
              omega

end VideoPacket
