import NexusRemote.FrameCrypto
import NexusRemote.Fragments
import NexusRemote.VideoPacket

/-!
# Video datagrams and packetization (`crates/nexus-transport/src/video.rs`)

A sealed frame is cut into chunks and every chunk travels in one datagram with
its own header. `CutFrame` is the sender's view of such a frame: the metadata
shared by all fragments and the pieces in order. A `WireFrame` is one that the
other end can decode.
-/

namespace VideoTransport

open BigEndian FrameCrypto Fragments VideoPacket

def maxVideoDatagramSize : Nat := 64 * 1024
def maxFramePayloadSize : Nat := 16 * 1024 * 1024
def maxPacketsPerFrame : Nat := 16384

/-- The metadata that is authenticated but not encrypted. -/
def frameMetadata (header : VideoPacketHeader) (codecConfigId : UInt32) : EncodedFrameMetadata where
  protocolVersion := header.version.toUInt32
  channel := header.streamId.toUInt32
  frameId := header.frameId
  codecConfigId := codecConfigId
  timestampUs := header.timestampUs
  keyframe := header.isKeyframe

def sealVideoFrame (A : Aead) (key : Octets 32) (sequence : NonceSequence)
    (header : VideoPacketHeader) (codecConfigId : UInt32) (encodedFrame : Bytes) : SealOutcome :=
  sealEncodedFrame A key sequence (frameMetadata header codecConfigId) encodedFrame

inductive VideoDatagramError where
  | tooLarge (actual limit : Nat)
  | packet (error : VideoPacketError)
  | payloadLengthMismatch
  deriving DecidableEq, Repr

def encodeVideoDatagram (header : VideoPacketHeader) (payload : Bytes) :
    Except VideoDatagramError Bytes :=
  if payload.length > maxPayloadLen then .error (.tooLarge payload.length maxPayloadLen)
  else if header.payloadLen.toNat ≠ payload.length then .error .payloadLengthMismatch
  else if headerLen + payload.length > maxVideoDatagramSize then
    .error (.tooLarge (headerLen + payload.length) maxVideoDatagramSize)
  else .ok (header.encode payload [])

def decodeVideoDatagram (bytes : Bytes) : Except VideoDatagramError (VideoPacketHeader × Bytes) :=
  if bytes.length > maxVideoDatagramSize then
    .error (.tooLarge bytes.length maxVideoDatagramSize)
  else
    match VideoPacketHeader.decode bytes with
    | .error e => .error (.packet e)
    | .ok decoded => .ok decoded

theorem decodeVideoDatagram_ok (bytes : Bytes) (decoded : VideoPacketHeader × Bytes)
    (h : decodeVideoDatagram bytes = .ok decoded) : VideoPacketHeader.decode bytes = .ok decoded := by
  unfold decodeVideoDatagram at h
  split at h
  · cases h
  · split at h
    · cases h
    · rename_i hdecoded
      rw [hdecoded, Except.ok.inj h]

inductive PacketizeError where
  | frameTooLarge (actual limit : Nat)
  | invalidChunkSize (max : Nat)
  | tooManyPackets (count max : Nat)
  deriving DecidableEq, Repr

/-- The header of fragment `i` of `count`, carrying `len` payload bytes. -/
def fragmentHeader (base : VideoPacketHeader) (count i len : Nat) : VideoPacketHeader :=
  { base with
    packetId := UInt16.ofNat i
    packetCount := UInt16.ofNat count
    payloadLen := UInt16.ofNat len
    flags :=
      let flags := if i = 0 then base.flags ||| flagFrameStart else base.flags
      if i = count - 1 then flags ||| flagFrameEnd else flags }

def packetizeVideoFrame (base : VideoPacketHeader) (payload : Bytes) (chunkSize : Nat) :
    Except PacketizeError (List (VideoPacketHeader × Bytes)) :=
  if chunkSize = 0 ∨ chunkSize > maxPayloadLen then .error (.invalidChunkSize maxPayloadLen)
  else if payload.length > maxFramePayloadSize then
    .error (.frameTooLarge payload.length maxFramePayloadSize)
  else if payload = [] then
    .ok [({ base with
      flags := base.flags ||| (flagFrameStart ||| flagFrameEnd)
      packetId := 0
      packetCount := 1
      payloadLen := 0 }, [])]
  else
    let pieces := chunks chunkSize payload
    let packetCount := pieces.length
    if packetCount > 65535 ∨ packetCount > maxPacketsPerFrame then
      .error (.tooManyPackets packetCount maxPacketsPerFrame)
    else .ok (pieces.mapIdx fun i chunk => (fragmentHeader base packetCount i chunk.length, chunk))

/-- A frame in pieces: what every fragment of it has in common, and the pieces. -/
structure CutFrame where
  base : VideoPacketHeader
  pieces : List Bytes
  count_pos : 0 < pieces.length
  count_le : pieces.length ≤ maxPacketsPerFrame
  piece_le : ∀ p ∈ pieces, p.length ≤ maxPayloadLen

/-- A frame in transit: in the current version and within the size limit. -/
structure WireFrame extends CutFrame where
  version_eq : base.version = currentVersion
  size_le : pieces.flatten.length ≤ maxFramePayloadSize

instance : Coe WireFrame CutFrame := ⟨WireFrame.toCutFrame⟩

namespace CutFrame

def count (X : CutFrame) : Nat := X.pieces.length

def piece (X : CutFrame) (i : Nat) : Bytes := X.pieces.getD i []

def header (X : CutFrame) (i : Nat) : VideoPacketHeader :=
  fragmentHeader X.base X.count i (X.piece i).length

def datagram (X : CutFrame) (i : Nat) : Bytes := (X.header i).encode (X.piece i) []

def datagrams (X : CutFrame) : List Bytes := (List.range X.count).map X.datagram

theorem piece_eq (X : CutFrame) (i : Nat) (h : i < X.pieces.length) : X.piece i = X.pieces[i] := by
  simp [piece, h]

theorem piece_length (X : CutFrame) (i : Nat) (h : i < X.count) :
    (X.piece i).length ≤ maxPayloadLen := by
  rw [piece_eq X i h]
  exact X.piece_le _ (List.getElem_mem _)

@[simp] theorem header_version (X : CutFrame) (i : Nat) : (X.header i).version = X.base.version :=
  rfl
@[simp] theorem header_streamId (X : CutFrame) (i : Nat) :
    (X.header i).streamId = X.base.streamId := rfl
@[simp] theorem header_frameId (X : CutFrame) (i : Nat) :
    (X.header i).frameId = X.base.frameId := rfl
@[simp] theorem header_timestampUs (X : CutFrame) (i : Nat) :
    (X.header i).timestampUs = X.base.timestampUs := rfl
@[simp] theorem header_nonceSequence (X : CutFrame) (i : Nat) :
    (X.header i).nonceSequence = X.base.nonceSequence := rfl

@[simp] theorem header_packetCount (X : CutFrame) (i : Nat) :
    (X.header i).packetCount.toNat = X.count := by
  have h := X.count_le
  simp only [maxPacketsPerFrame] at h
  simp only [header, fragmentHeader, count, UInt16.toNat_ofNat']
  omega

@[simp] theorem header_packetId (X : CutFrame) (i : Nat) (h : i < X.count) :
    (X.header i).packetId.toNat = i := by
  have hc := X.count_le
  simp only [count, maxPacketsPerFrame] at h hc
  simp only [header, fragmentHeader, UInt16.toNat_ofNat']
  omega

@[simp] theorem header_payloadLen (X : CutFrame) (i : Nat) (h : i < X.count) :
    (X.header i).payloadLen.toNat = (X.piece i).length := by
  have hl := X.piece_length i h
  simp only [maxPayloadLen] at hl
  simp only [header, fragmentHeader, UInt16.toNat_ofNat']
  omega

/-- The boundary marks never touch the keyframe bit. -/
@[simp] theorem header_keyframe (X : CutFrame) (i : Nat) :
    (X.header i).flags &&& flagKeyframe = X.base.flags &&& flagKeyframe := by
  have hs : flagFrameStart &&& flagKeyframe = 0 := by decide
  have he : flagFrameEnd &&& flagKeyframe = 0 := by decide
  simp only [header, fragmentHeader]
  split <;> split <;> simp [or_and, hs, he]

@[simp] theorem header_isKeyframe (X : CutFrame) (i : Nat) :
    (X.header i).isKeyframe = X.base.isKeyframe := by
  simp [VideoPacketHeader.isKeyframe]

theorem header_frameStart (X : CutFrame) : (X.header 0).flags &&& flagFrameStart ≠ 0 := by
  have hs : flagFrameStart ≠ 0 := by decide
  simp only [header, fragmentHeader, ↓reduceIte]
  split <;> simp [or_and, hs, UInt8.or_eq_zero_iff]

theorem header_frameEnd (X : CutFrame) :
    (X.header (X.count - 1)).flags &&& flagFrameEnd ≠ 0 := by
  have he : flagFrameEnd ≠ 0 := by decide
  simp [header, fragmentHeader, or_and, he, UInt8.or_eq_zero_iff]

@[simp] theorem length_datagram (X : CutFrame) (i : Nat) :
    (X.datagram i).length = headerLen + (X.piece i).length := by simp [datagram]

theorem datagram_fits (X : CutFrame) (i : Nat) (h : i < X.count) :
    headerLen + (X.piece i).length ≤ maxVideoDatagramSize := by
  have hl := X.piece_length i h
  simp only [maxPayloadLen, maxVideoDatagramSize, headerLen] at *
  omega

theorem encode_datagram (X : CutFrame) (i : Nat) (h : i < X.count) :
    encodeVideoDatagram (X.header i) (X.piece i) = .ok (X.datagram i) := by
  have hl := Nat.not_lt.mpr (X.piece_length i h)
  have hf := Nat.not_lt.mpr (X.datagram_fits i h)
  simp [encodeVideoDatagram, datagram, hl, hf, header_payloadLen X i h]

end CutFrame

namespace WireFrame

theorem decode_datagram (X : WireFrame) (i : Nat) (h : i < X.count) :
    decodeVideoDatagram (X.datagram i) = .ok (X.header i, X.piece i) := by
  have hf := Nat.not_lt.mpr (X.datagram_fits i h)
  have hd := decode_encode (X.header i) (X.piece i) X.version_eq (X.header_payloadLen i h)
    (X.piece_length i h)
  simp [decodeVideoDatagram, hf]
  simp [CutFrame.datagram, hd]

/-- The packet id tells the datagrams of one frame apart. -/
theorem datagram_inj (X : WireFrame) (i j : Nat) (hi : i < X.count) (hj : j < X.count)
    (h : X.datagram i = X.datagram j) : i = j := by
  have hd := X.decode_datagram i hi
  rw [h, X.decode_datagram j hj] at hd
  simp only [Except.ok.injEq, Prod.mk.injEq] at hd
  have hid := congrArg (fun p : VideoPacketHeader => p.packetId.toNat) hd.1
  simp only [X.header_packetId i hi, X.header_packetId j hj] at hid
  exact hid.symm

end WireFrame

/-- Every packet list that packetization returns is the fragment list of a cut
frame: the base header's metadata on every fragment and the payload in pieces. -/
theorem packetize_cut (base : VideoPacketHeader) (payload : Bytes) (chunkSize : Nat)
    (packets : List (VideoPacketHeader × Bytes))
    (h : packetizeVideoFrame base payload chunkSize = .ok packets) :
    ∃ X : CutFrame, X.base = base ∧ X.pieces.flatten = payload ∧
      payload.length ≤ maxFramePayloadSize ∧
      packets = (List.range X.count).map fun i => (X.header i, X.piece i) := by
  unfold packetizeVideoFrame at h
  split at h
  · cases h
  · rename_i hchunk
    split at h
    · cases h
    · rename_i hsize
      split at h
      · rename_i hempty
        simp only [Except.ok.injEq] at h
        refine ⟨⟨base, [[]], by decide, by decide, by simp⟩, rfl, by simp [hempty], by omega, ?_⟩
        simp [← h, CutFrame.count, CutFrame.header, CutFrame.piece, fragmentHeader,
          UInt8.or_assoc]
      · rename_i hne
        dsimp only at h
        split at h
        · cases h
        · rename_i hcount
          simp only [Except.ok.injEq] at h
          have hk : 0 < chunkSize := by omega
          have hpos : 0 < payload.length := List.length_pos_iff.mpr hne
          have hflat := flatten_chunks chunkSize payload hk
          refine ⟨⟨base, chunks chunkSize payload, ?_, by omega, ?_⟩, rfl, hflat, by omega, ?_⟩
          · simpa using pieces_pos chunkSize payload.length hk hpos
          · intro p hp
            have := length_le_of_mem_chunks chunkSize payload p hp
            omega
          · rw [← h]
            apply List.ext_getElem
            · simp [CutFrame.count]
            · intro i hi hi'
              rw [List.length_mapIdx] at hi
              simp only [List.getElem_mapIdx, List.getElem_map, List.getElem_range]
              rw [CutFrame.header, CutFrame.piece_eq _ i hi]
              rfl

theorem packetize_ok (base : VideoPacketHeader) (payload : Bytes) (chunkSize : Nat)
    (packets : List (VideoPacketHeader × Bytes)) (hv : base.version = currentVersion)
    (h : packetizeVideoFrame base payload chunkSize = .ok packets) :
    ∃ X : WireFrame, X.base = base ∧ X.pieces.flatten = payload ∧
      packets = (List.range X.count).map fun i => (X.header i, X.piece i) := by
  obtain ⟨X, rfl, rfl, hsize, hpackets⟩ := packetize_cut base payload chunkSize packets h
  exact ⟨⟨X, hv, hsize⟩, rfl, rfl, hpackets⟩

/-- Packetization of a frame within the size limit cannot fail. -/
theorem packetize_fits (base : VideoPacketHeader) (payload : Bytes) (chunkSize : Nat)
    (hk : 0 < chunkSize) (hm : chunkSize ≤ maxPayloadLen)
    (hs : payload.length ≤ maxFramePayloadSize)
    (hc : pieces chunkSize payload.length ≤ maxPacketsPerFrame) :
    ∃ packets, packetizeVideoFrame base payload chunkSize = .ok packets := by
  have hcount : ¬(65535 < pieces chunkSize payload.length ∨
      maxPacketsPerFrame < pieces chunkSize payload.length) := by
    simp only [maxPacketsPerFrame] at *
    omega
  by_cases he : payload = []
  · simp [packetizeVideoFrame, he, hk.ne', Nat.not_lt.mpr hm]
  · simp [packetizeVideoFrame, he, hk.ne', Nat.not_lt.mpr hm, Nat.not_lt.mpr hs, hcount]

end VideoTransport
